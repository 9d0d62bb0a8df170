import Rehearsal.Proofs.FilePlaces
import Rehearsal.Proofs.RunCourse

/-!
# The files of a run

A browser that is started, watched and closed leaves the files alone, and so do calls on its pages.
Pictures are the only files of a run: each is taken once the directory for screenshots is there, and
under the name of an entry of it. A path without such a name gets no picture at all.
-/

namespace Rehearsal

open Play

section Stages

variable {τ : Type}

/-- The files are the same. -/
def Stage.SameFiles (s t : Stage τ) : Prop := t.files = s.files

/-- Files have been written only as entries of a directory. -/
def Stage.WritesInside (directory : Path) (s t : Stage τ) : Prop :=
  Files.Written (Files.Inside directory) s.files t.files

/-- Files have been written only as entries of a directory that have one of some names. -/
def Stage.WritesEntries (directory : Path) (names : String → Prop) (s t : Stage τ) : Prop :=
  Files.Written (Files.Entries directory names) s.files t.files

variable {directory : Path} {names : String → Prop} {E : Prop}

instance : Std.Refl (@Stage.SameFiles τ) where
  refl _ := rfl

instance : IsTrans (Stage τ) Stage.SameFiles where
  trans _ _ _ h k := k.trans h

instance : Std.Refl (@Stage.WritesInside τ directory) where
  refl _ := .rfl

instance : IsTrans (Stage τ) (Stage.WritesInside directory) where
  trans _ _ _ h k := h.trans k fun _ => k.inside

instance : Std.Refl (@Stage.WritesEntries τ directory names) where
  refl _ := .rfl

instance : IsTrans (Stage τ) (Stage.WritesEntries directory names) where
  trans _ _ _ h k := h.trans k fun _ => k.entries

lemma Stage.SameFiles.written {chosen : Files → Location → Prop} {s t : Stage τ}
    (h : s.SameFiles t) : Files.Written chosen s.files t.files := by
  rw [h]
  exact .rfl

variable [Clock τ]

lemma Stage.files_openPage (s : Stage τ) (url : Value) (page : Page (Effect τ)) :
    s.SameFiles (s.openPage url page) := by
  unfold openPage
  dsimp only
  split <;> rfl

lemma Stage.files_act (s : Stage τ) (id : Nat) (e : Effect τ) : s.SameFiles (s.act id e).2 := by
  cases e with
  | openPage url page => exact s.files_openPage url page
  | dialog type message fault => exact s.emit_within id .dialog fun _ => rfl
  | crash => exact s.emit_within id .crash fun _ => rfl
  | pageError message => exact s.emit_within id .pageError fun _ => rfl
  | _ => rfl

instance : Stage.Admits (@Stage.SameFiles τ) where
  note _ _ _ _ := rfl
  perform s id e := (s.witness id e).files_act id e
  pass _ _ := rfl
  meanwhile _ _ := rfl
  answers _ _ := rfl
  script _ _ _ := rfl
  element _ _ _ _ := rfl
  arrive _ _ _ := rfl
  load _ _ _ := rfl

instance : Stage.Admits (@Stage.WritesInside τ directory) :=
  Stage.Admits.mono (Q := Stage.SameFiles) fun _ _ => Stage.SameFiles.written

instance : Stage.Admits (@Stage.WritesEntries τ directory names) :=
  Stage.Admits.mono (Q := Stage.SameFiles) fun _ _ => Stage.SameFiles.written

instance (limit : Int) : Stage.AdmitsLimit limit (@Stage.WritesInside τ directory) where
  limits _ _ := .rfl

/-! Pictures. -/

section Pictures

variable (directory) (page : Nat) (shot : Capture) (path : Path)

/-- What a screenshot of an action and one for the ledger have in common: the directory is made
first, then the picture is taken into a file. -/
def photograph : Play τ Unit := do
  Play.fileWork (·.makeDirectory directory)
  Browser.screenshot page path shot

variable {directory path} in
/-- All that a picture does to a stage are the directories that are made and the file. -/
lemma photograph_within {R : Stage τ → Stage τ → Prop} [Stage.Admits R]
    (made : ∀ s files, s.files.makeDirectory directory = .ok files → R s { s with files })
    (written : ∀ s f files, s.files.write path f = .ok files → R s { s with files }) :
    Within R E (photograph directory page shot path : Play τ Unit) :=
  .bind (fileWork_within made) fun _ =>
    Browser.screenshot_within (Browser.saveImage_within written) page shot

/-- Nothing but directories is made before the picture is written. -/
lemma photograph_cases (s : Stage τ) :
    (∃ f t, photograph directory page shot path s = (.failed f, t) ∧
      Files.Written Files.noPlace s.files t.files) ∨
    ∃ t, photograph directory page shot path s = Browser.saveImage path t ∧
      Files.Written Files.noPlace s.files t.files ∧ t.files.isDirectory directory = .ok true := by
  rcases hd : s.files.makeDirectory directory with f | files
  · have unmade : Play.fileWork (·.makeDirectory directory) s = (.failed (.file f), s) := by
      simp [Play.fileWork, hd]
    exact .inl ⟨_, s, bind_failed unmade, .rfl⟩
  have made : Play.fileWork (·.makeDirectory directory) s = (.done (), { s with files }) := by
    simp [Play.fileWork, hd]
  obtain ⟨written, there⟩ := Files.makeDirectory_ok hd
  -- the call runs a step of the page's script, which may do anything but reach the files
  have called : Within Stage.SameFiles False
      (Browser.call page (.screenshot shot) : Play τ Unit) := Browser.call_deeds page _
  rcases hc : Browser.call page (.screenshot shot) { s with files } with ⟨u | f | _, t⟩
  · have same : t.files = files := called.stage hc
    refine .inr ⟨t, (bind_done made).trans (bind_done hc), ?_, ?_⟩
    · rwa [same]
    · rwa [same]
  · have same : t.files = files := called.stage hc
    refine .inl ⟨f, t, (bind_done made).trans (bind_failed hc), ?_⟩
    rwa [same]
  · exact absurd (congrArg Prod.fst hc) (called.ends _)

lemma Screenshot.Camera.shoot_eq (c : Screenshot.Camera) :
    (c.shoot page path : Play τ Unit) = photograph c.directory page (c.exposure path) path :=
  rfl

variable {directory}

/-- A picture under the name of an entry is written there, if it is written at all. -/
lemma photograph_entry {name : String} (entry : EntryName name) (named : names name) :
    Within (Stage.WritesEntries directory names) E
      (photograph directory page shot (directory.child name) : Play τ Unit) := by
  intro s
  rcases photograph_cases directory page shot _ s with ⟨f, t, h, written⟩ | ⟨t, h, written, there⟩
  · rw [h]
    exact ⟨written.mono fun _ => False.elim, fun e => by cases e⟩
  have begun : s.WritesEntries directory names t := written.mono fun _ => False.elim
  rw [h]
  unfold Browser.saveImage
  split
  · exact ⟨begun, fun e => by cases e⟩
  · exact ⟨begun, fun e => by cases e⟩
  · split
    · next files hw =>
      have last : t.WritesEntries directory names { t with files } :=
        Files.write_entry there entry named hw
      exact ⟨IsTrans.trans _ _ _ begun last, fun e => by cases e⟩
    · exact ⟨begun, fun e => by cases e⟩

lemma photograph_inside {name : String} (entry : EntryName name) :
    Within (Stage.WritesInside directory) E
      (photograph directory page shot (directory.child name) : Play τ Unit) := by
  have written : Within (Stage.WritesEntries directory fun _ => True) E
      (photograph directory page shot (directory.child name) : Play τ Unit) :=
    photograph_entry page shot entry trivial
  exact written.mono (fun _ _ h => Files.Written.mono h fun _ => Files.Entries.inside) id

/-- No picture is written where the path leads to the directory itself or to the one above. -/
lemma photograph_fails (h : path = directory ∨ path = directory.child "..") (s : Stage τ) :
    ∃ f t, photograph directory page shot path s = (.failed f, t) ∧
      Files.Written Files.noPlace s.files t.files := by
  rcases photograph_cases directory page shot path s with failed | ⟨t, ht, written, there⟩
  · exact failed
  -- a path that is too long is refused as well, so it need not lead to a directory
  have refused : t.files.isDirectory path ≠ .ok false := by
    intro e
    rcases h with rfl | rfl
    · cases there.symm.trans e
    · cases Files.isDirectory_above there e
  rw [ht]
  unfold Browser.saveImage
  split
  · exact ⟨_, t, rfl, written⟩
  · exact ⟨_, t, rfl, written⟩
  · next e => exact absurd e refused

end Pictures

end Stages

/-! Sessions. -/

section Sessions

variable {τ : Type}

lemma Stage.files_foldl {α : Type} {f : Stage τ → α → Stage τ}
    (h : ∀ s a, Stage.SameFiles s (f s a)) (as : List α) (s : Stage τ) :
    s.SameFiles (as.foldl f s) := by
  induction as generalizing s with
  | nil => rfl
  | cons a as ih => exact IsTrans.trans _ _ _ (h s a) (ih _)

lemma Stage.files_startWatch (s : Stage τ) : s.SameFiles s.startWatch := by
  unfold startWatch
  split
  · rfl
  · exact files_foldl (f := watchPage) (fun _ _ => rfl) s.contextPages
      { s with watch := { s.watch with started := true }, contextListeners := s.contextListeners + 1 }

lemma Stage.files_stopWatch (s : Stage τ) : s.SameFiles s.stopWatch := by
  unfold stopWatch
  split
  · rfl
  · exact files_foldl (f := unwatchPage) (fun _ _ => rfl) s.watch.pages
      { s with contextListeners := s.contextListeners - 1 }

variable {E : Prop}

lemma service_files (c : ServiceCall) :
    Within Stage.SameFiles E (Browser.service c : Play τ Unit) := by
  intro s
  unfold Browser.service
  dsimp only
  split <;> exact ⟨rfl, fun e => by cases e⟩

variable [Clock τ]

lemma newPage_files : Within Stage.SameFiles E (Browser.newPage : Play τ Nat) := by
  have one (s : Stage τ) (p : Page (Effect τ)) : s.SameFiles (s.openPage p.url p) :=
    s.files_openPage p.url p
  exact .bind (service_files _) fun _ =>
    .bind (.change fun s => Stage.files_foldl one s.prepared s) fun _ => .pure 0

namespace Session

omit [Clock τ] in
lemma begin_files (page : Nat) (timeout : Int) (owned : Bool) :
    Within Stage.SameFiles E (begin page timeout owned : Play τ Session) :=
  .bind (.change fun s => Stage.files_startWatch { s with watch := { timeout } }) fun _ => .pure _

lemma close_files (session : Session) :
    Within Stage.SameFiles E (close session : Play τ Session) := by
  have quiet (c : ServiceCall) :
      Within Stage.SameFiles E (quietly (Browser.service c) : Play τ Unit) :=
    .orElse (service_files c) fun _ => .pure ()
  have released : Within Stage.SameFiles E (release session : Play τ Unit) := by
    refine .bind (.change Stage.files_stopWatch) fun _ => .bind (quiet _) fun _ => ?_
    split
    · exact .bind (quiet _) fun _ => quiet _
    · exact .pure ()
  have closed : Within Stage.SameFiles E (do
      release session
      return { session with closed := true } : Play τ Session) :=
    .bind released fun _ => .pure _
  unfold close
  split
  · exact .pure _
  · exact closed

variable (settings : Settings)

lemma obtain_files : Within Stage.SameFiles True (Session.obtain settings) := by
  have connected : Within Stage.SameFiles True
      (Browser.service (.connect (settings .cdpUrl)) : Play Float Unit) := service_files _
  unfold Session.obtain
  dsimp only
  split
  · exact service_files _
  · refine .bind (Endpoint.wait_deeds _ _ _) fun up => ?_
    split
    · exact .bind (.fail _) fun _ => connected
    · exact connected

lemma openContext_files : Within Stage.SameFiles E (openContext settings) :=
  .bind (service_files _) fun _ => .bind (.change fun _ => rfl) fun _ => newPage_files

lemma launch_files : Within Stage.SameFiles True (launch settings) := by
  have stopped (f : Failure) : Within Stage.SameFiles True (do
      Browser.service .stop
      Play.fail f : Play Float Session) :=
    .bind (service_files _) fun _ => .fail f
  refine .bind (service_files _) fun _ => .bind (obtain_files settings).attempt fun r => ?_
  split
  · exact stopped _
  · refine .bind (openContext_files settings).attempt fun r => ?_
    split
    · refine .bind (.orElse (service_files _) fun f => ?_) fun _ => stopped _
      split
      · exact .pure ()
      · exact .fail _
    · exact begin_files _ _ _

end Session
end Sessions

namespace Run

variable (settings : Settings)

lemma saveScreenshot_eq (page : Nat) (path : String) :
    saveScreenshot settings page path =
      let target := (settings .screenshotsDir : Path).child (Path.ofText path).name
      photograph (settings .screenshotsDir) page { path := target.text, fullPage := true } target :=
  rfl

lemma saveScreenshot_fails {path : String} (h : Path.Nameless path) (page : Nat) (s : Stage Float) :
    ∃ f t, saveScreenshot settings page path s = (.failed f, t) ∧
      Files.Written Files.noPlace s.files t.files := by
  rw [saveScreenshot_eq]
  refine photograph_fails page _ _ ?_ s
  rcases h with h | h <;> rw [h]
  · exact .inl rfl
  · exact .inr rfl

lemma perform_nameless {path : String} (h : Path.Nameless path) (index : Nat) (state : State)
    (s : Stage Float) : ∃ f t, perform settings index (.screenshot path) state s = (.failed f, t) ∧
      Files.Written Files.noPlace s.files t.files := by
  have checked : Within Eq False (checkPreconditions state) := checkPreconditions_within state
  rcases hc : checkPreconditions state s with ⟨⟨⟩ | f | _, t⟩
  · obtain rfl := checked.stage hc
    obtain ⟨f, u, hs, written⟩ := saveScreenshot_fails settings h state.current s
    exact ⟨f, u, (bind_done hc).trans (bind_failed hs), written⟩
  · obtain rfl := checked.stage hc
    exact ⟨f, s, bind_failed hc, .rfl⟩
  · exact absurd (congrArg Prod.fst hc) (checked.ends s)

variable {settings} in
/-- A failure of an action becomes that of the run, unless the clock shows no calendar moment when
it is documented. -/
lemma executeAll_performing {index : Nat} {a : Action} {state : State} {s t : Stage Float}
    {f : Failure} (rest : List Action)
    (hp : perform settings index a state s = (.failed f, t)) :
    (∃ u, executeAll settings index state (a :: rest) s =
      (.done (.error (.actionFailed index a.name f.message f.code?)), u)) ∨
    ∃ g u, executeAll settings index state (a :: rest) s = (.failed (.clock g), u) ∧
      Clock.moment u.epoch u.now = .error g := by
  have raised := Raised.acting f t hp
  obtain ⟨shown, u, hl⟩ := lookInto_done settings state.current t
  rcases (Point.ofError index a shown f u).captured settings with
    ⟨g, v, hc, -⟩ | ⟨v, hc, -, -⟩ | ⟨r, v, hc, -, -, -⟩
  · obtain ⟨_, same, untold⟩ := Screenshot.Camera.record_clock hc
    cases same
    exact .inr ⟨g, v, bind_failed (execute_lost raised hl hc), untold⟩
  · exact .inl ⟨v, bind_done (execute_failed raised hl hc)⟩
  · exact .inl ⟨v, bind_done (execute_failed raised hl hc)⟩

/-! What pictures do to the files is all that a run does to them. -/

section Whole

variable {settings} {R : Stage Float → Stage Float → Prop} [Stage.Admits R]
  [Stage.AdmitsLimit (settings .browserTimeout) R]
  (same : ∀ s t : Stage Float, s.SameFiles t → R s t)
  (recorded : ∀ page caption attempt, Within R True
    ((Screenshot.Camera.ofSettings settings).record page caption attempt : Play Float _))
  (saved : ∀ page path, Within R True (saveScreenshot settings page path))
include same recorded saved

lemma withSession_within (url : Value) (actions : List Action) :
    Within R True (withSession settings url actions) := by
  have untouched {α : Type} {p : Play Float α} (h : Within Stage.SameFiles True p) :
      Within R True p := h.mono same id
  have acted (session : Session) : Within R True (inSession settings session url actions) :=
    inSession_within recorded saved session url actions fun _ _ => trivial
  refine .bind (untouched (Session.launch_files settings)).attempt fun r => ?_
  split
  · exact .pure _
  · refine .bind (.bind (acted _).attempt fun r => ?_) fun result =>
      .bind (untouched (Session.close_files _)) fun _ => .pure _
    split <;> exact .pure _

lemma ofGiven_within (url : Value) (g : Given) : Within R True (ofGiven settings url g) := by
  intro s
  refine ⟨?_, fun _ => trivial⟩
  have begun : R s (opened s) := same _ _ rfl
  rcases hg : g.read with cause | actions
  · rw [ofGiven_unread settings url hg]
    exact begun
  · have ledgered (r : Except RunCause RunResult) : Within R True (withLedger r) := by
      cases r with
      | ok _ => exact .pure _
      | error _ => exact .bind (.look _) fun _ => .pure _
    have course : Within R True (withSession settings url actions >>= withLedger) :=
      .bind (withSession_within same recorded saved url actions) ledgered
    rw [ofGiven_read settings url hg]
    exact IsTrans.trans _ _ _ begun (course (opened s)).1

end Whole

section Confined

/-- The files of a run are the pictures in its directory. -/
abbrev Confined : Stage Float → Stage Float → Prop :=
  Stage.WritesInside (settings .screenshotsDir)

variable {E : Prop}

lemma saveScreenshot_confined (page : Nat) (path : String) :
    Within (Confined settings) E (saveScreenshot settings page path) := by
  rcases Path.nameless_or_entry path with nameless | entry
  · intro s
    obtain ⟨f, t, failed, written⟩ := saveScreenshot_fails settings nameless page s
    rw [failed]
    exact ⟨written.mono fun _ => False.elim, fun e => by cases e⟩
  · rw [saveScreenshot_eq]
    exact photograph_inside page _ entry

variable {settings}
variable (known : settings .screenshotType = "jpeg" ∨ settings .screenshotType = "png")
include known

lemma recorded_confined (page : Option Nat) (caption : Screenshot.Caption)
    (attempt : Option Int) : Within (Confined settings) E
      ((Screenshot.Camera.ofSettings settings).record page caption attempt : Play Float _) := by
  refine Screenshot.Camera.record_within _ page caption attempt (fun page m => ?_)
    fun s r _ => .rfl
  let camera := Screenshot.Camera.ofSettings settings
  have entry : EntryName (Screenshot.fileName caption.step attempt camera.imageType m) :=
    Screenshot.entry_fileName known caption.step attempt m
  rw [Screenshot.Camera.shoot_eq, Screenshot.Camera.fileFor, Path.resolve_entry _ entry]
  exact photograph_inside page _ entry

/-- Whatever a run is given, however it ends, its files are entries of its directory. -/
lemma ofGiven_confined (url : Value) (g : Given) (s : Stage Float) :
    s.WritesInside (settings .screenshotsDir) (ofGiven settings url g s).2 :=
  (ofGiven_within (R := Confined settings) (fun _ _ => Stage.SameFiles.written)
    (recorded_confined known) (saveScreenshot_confined settings) url g s).1

end Confined

/-- The files that a run creates or overwrites stand directly in the directory for screenshots,
whatever its actions are. One whose path has no name for an entry fails with no file written, and
the run fails with it once the failure has been documented. -/
theorem files_stay_inside (settings : Settings)
    (known : settings .screenshotType = "jpeg" ∨ settings .screenshotType = "png") :
    (∀ (url : Value) (g : Given) (s : Stage Float),
      Files.Written (Files.Inside (settings .screenshotsDir)) s.files
        (ofGiven settings url g s).2.files) ∧
    ∀ path : String, Path.Nameless path →
      ∀ (index : Nat) (state : State) (rest : List Action) (s : Stage Float),
      ∃ f t, perform settings index (.screenshot path) state s = (.failed f, t) ∧
        Files.Written Files.noPlace s.files t.files ∧
        ((∃ u, executeAll settings index state (.screenshot path :: rest) s =
          (.done (.error (.actionFailed index "screenshot" f.message f.code?)), u)) ∨
        ∃ g u, executeAll settings index state (.screenshot path :: rest) s =
          (.failed (.clock g), u) ∧ Clock.moment u.epoch u.now = .error g) := by
  refine ⟨ofGiven_confined known, fun path nameless index state rest s => ?_⟩
  obtain ⟨f, t, performed, written⟩ := perform_nameless settings nameless index state s
  exact ⟨f, t, performed, written, executeAll_performing rest performed⟩

/-- A path that climbs from the root gives a picture its last name, and one that ends by climbing
gives it none. -/
theorem files_stay_inside_climbing :
    (Settings.standard .screenshotType = "jpeg" ∨ Settings.standard .screenshotType = "png") ∧
    (∃ t, (ofGiven Settings.standard (.text "https://x")
        (.items [.ready (.screenshot "/a/../b.png")]) { now := 0 }).2 = t ∧
      (t.files.at? ["work", "screenshots", "b.png"]).isSome ∧
      Files.Written (Files.Inside ⟨.here, ["screenshots"]⟩) ⟨["work"], []⟩ t.files) ∧
    Path.Nameless "b.png/.." ∧
    ∃ f t, perform Settings.standard 1 (.screenshot "b.png/..")
        { session := { firstPage := 0, timeout := 0 }, current := 0, baseline := ⟨0, 1⟩ }
        { now := 0, pages := [{}] } = (.failed f, t) ∧
      Files.Written Files.noPlace ⟨["work"], []⟩ t.files := by
  have known : Settings.standard .screenshotType = "jpeg" ∨
    Settings.standard .screenshotType = "png" := .inl rfl
  have named : Path.Nameless "b.png/.." := .inr (by decide +kernel)
  obtain ⟨inside, outside⟩ := files_stay_inside Settings.standard known
  obtain ⟨f, t, performed, written, -⟩ := outside "b.png/.." named 1
    { session := { firstPage := 0, timeout := 0 }, current := 0, baseline := ⟨0, 1⟩ } []
    { now := 0, pages := [{}] }
  exact ⟨known, ⟨_, rfl, by decide +kernel, inside _ _ { now := 0 }⟩, named, f, t, performed, written⟩

/-- The picture that is to document the failure of an action is taken while the clock leaves the
calendar: the run does not fail with the action. -/
theorem screenshot_above_untold : ∃ failure t,
    ofGiven Settings.standard (.text "https://x") (.items [.ready (.screenshot "..")])
      { now := 0, prepared := [{ script := [("screenshot", [[], [.elapse 1e12]])] }] } =
        (.done (.error failure), t) ∧
    Path.Nameless ".." ∧
    (t.trace.any fun
      | .page 0 (.screenshot shot) => shot.path = "screenshots/.."
      | _ => false) ∧
    failure.cause.code = "RUN_FAILED" := by
  have course : (ofGiven Settings.standard (.text "https://x") (.items [.ready (.screenshot "..")])
      { now := 0, prepared := [{ script := [("screenshot", [[], [.elapse 1e12]])] }] }).1.value?.map
        (fun r => match r with
          | .error failure => some failure.cause.code
          | .ok _ => none) = some (some "RUN_FAILED") := by decide +kernel
  have called : (ofGiven Settings.standard (.text "https://x") (.items [.ready (.screenshot "..")])
      { now := 0, prepared := [{ script := [("screenshot", [[], [.elapse 1e12]])] }] }).2.trace.any
        (fun
          | .page 0 (.screenshot shot) => shot.path = "screenshots/.."
          | _ => false) := by decide +kernel
  rcases h : ofGiven Settings.standard (.text "https://x") (.items [.ready (.screenshot "..")])
      { now := 0, prepared := [{ script := [("screenshot", [[], [.elapse 1e12]])] }] } with
    ⟨r | f | _, t⟩ <;> rw [h] at course called
  · cases r with
    | ok result => cases course
    | error failure =>
      exact ⟨failure, t, rfl, .inr (by decide +kernel), called,
        Option.some.inj (Option.some.inj course)⟩
  · cases course
  · cases course

end Run

end Rehearsal
