import Rehearsal.Proofs.ImageReplies
import Rehearsal.Proofs.RunFiles

/-!
# Requests keep trees of files sound

Directories are made, pictures written and images removed where a file system allows it, so a sound
tree of files stays sound from one request to the next. What holds of the images in a sound tree thus
holds at any time of a server that has begun with one.
-/

namespace Rehearsal

open Play

section Stages

variable {τ : Type}

/-- A sound tree of files is left sound. -/
def Stage.KeepsSound (s t : Stage τ) : Prop := s.files.Sound → t.files.Sound

instance : Std.Refl (@Stage.KeepsSound τ) where
  refl _ := id

instance : IsTrans (Stage τ) Stage.KeepsSound where
  trans _ _ _ h k sound := k (h sound)

lemma Stage.SameFiles.keepsSound {s t : Stage τ} (h : s.SameFiles t) : s.KeepsSound t := by
  intro sound
  rw [h]
  exact sound

variable [Clock τ] {E : Prop}

instance : Stage.Admits (@Stage.KeepsSound τ) :=
  Stage.Admits.mono (Q := Stage.SameFiles) fun _ _ => Stage.SameFiles.keepsSound

instance (limit : Int) : Stage.AdmitsLimit limit (@Stage.KeepsSound τ) where
  limits _ _ := id

lemma photograph_sound {directory path : Path} (folder : directory.Proper) (proper : path.Proper)
    (page : Nat) (shot : Capture) :
    Within Stage.KeepsSound E (photograph directory page shot path : Play τ Unit) :=
  photograph_within page shot (fun _ _ made sound => sound.makeDirectory folder made)
    fun _ _ _ written sound => sound.write proper written

end Stages

variable {settings : Settings}

/-- A run leaves a sound tree of files sound. -/
lemma Run.ofGiven_sound (folder : (settings .screenshotsDir : Path).Proper) (url : Value)
    (g : Given) : Within Stage.KeepsSound True (ofGiven settings url g) := by
  have recorded (page : Option Nat) (caption : Screenshot.Caption) (attempt : Option Int) :
      Within Stage.KeepsSound True
        ((Screenshot.Camera.ofSettings settings).record page caption attempt : Play Float _) :=
    Screenshot.Camera.record_within _ page caption attempt
      (fun page _ => photograph_sound folder (folder.resolve _) page _) fun _ _ _ => id
  have saved (page : Nat) (path : String) :
      Within Stage.KeepsSound True (saveScreenshot settings page path) :=
    photograph_sound folder (folder.child path) page _
  exact ofGiven_within (fun _ _ => Stage.SameFiles.keepsSound) recorded saved url g

lemma Screenshot.clear_sound {fs ft : Files} {p : Path} {n : Nat} (sound : fs.Sound)
    (h : clear fs p = .ok (n, ft)) : ft.Sound := by
  unfold clear at h
  split at h
  · cases h
  · next dir images _ =>
    have erased := sound.erase_all (images.map fun i => dir ++ [i.1])
    rw [List.foldl_map] at erased
    cases h
    exact erased

namespace Server

/-! What answers do besides telling is left to relations that a play stays within. -/

section Answers

variable {R : Stage Float → Stage Float → Prop} [Std.Refl R] [IsTrans (Stage Float) R] {E : Prop}

lemma timestamp_within : Within R E timestamp :=
  .bind .moment fun _ => .pure _

lemma unexpected_within (message : String) : Within R E (unexpected message) :=
  .bind timestamp_within fun _ => .pure _

lemma notFound_within (path : String) : Within R E (notFound path) :=
  .bind timestamp_within fun _ => .pure _

lemma guarded_within {p : Play Float Reply} (h : Within R E p) : Within R E (guarded p) :=
  .orElse h fun _ => .orElse (unexpected_within _) fun _ => .pure _

lemma fromFiles_within {α : Type} {read : Files → Except Failure α}
    {answer : α → Play Float Reply} (h : ∀ a, Within R E (answer a)) :
    Within R E (fromFiles read answer) :=
  .bind (.look _) fun _ => .bind (.ofExcept _) h

lemma serveScreenshot_within (settings : Settings) (name : String) :
    Within R E (serveScreenshot settings name) := by
  unfold serveScreenshot
  split
  · exact .pure _
  · refine fromFiles_within fun found => ?_
    cases found with
    | some f =>
      dsimp only
      split
      · exact .pure _
      · exact .fail _
    | none => exact .pure _

lemma health_within (settings : Settings) : Within R E (health settings) :=
  fromFiles_within fun _ => .bind (.look _) fun _ => .bind timestamp_within fun _ => .pure _

end Answers

lemma clearScreenshots_sound : Within Stage.KeepsSound True (clearScreenshots settings) := by
  intro s
  refine ⟨fun sound => ?_, fun _ => trivial⟩
  unfold clearScreenshots
  rcases h : Screenshot.clear s.files (settings .screenshotsDir) with f | ⟨n, files⟩
  · rw [fromFiles_error h]
    exact sound
  · rw [fromFiles_ok h]
    exact Screenshot.clear_sound sound h

section Requests

variable (folder : (settings .screenshotsDir : Path).Proper)
include folder

lemma run_sound (data : Value) : Within Stage.KeepsSound True (run settings data) := by
  have requested (r : Rehearsal.Request) :
      Within Stage.KeepsSound True (runRequest settings r) := by
    refine .bind (Run.ofGiven_sound folder (.text r.url) (.items (r.actions.map .ready)))
      fun result => ?_
    split <;> exact .pure _
  unfold run
  split
  · split
    · exact .pure _
    · split
      · exact requested _
      · exact .pure _
  · split
    · exact unexpected_within _
    · exact .pure _

lemma answer_sound (method : String) (r : Request) (path : String) (resource : Resource) :
    Within Stage.KeepsSound True (answer settings method r path resource) := by
  cases resource with
  | index => exact .bind timestamp_within fun _ => .pure _
  | runs =>
    unfold answer
    dsimp only
    split
    · exact run_sound folder _
    · exact unexpected_within _
  | screenshots =>
    unfold answer
    dsimp only
    split
    · exact clearScreenshots_sound
    · exact fromFiles_within fun _ => .pure _
  | screenshot name => exact serveScreenshot_within settings name
  | health => exact health_within settings
  | dashboard => exact .pure _
  | asset _ => exact notFound_within _

/-- A request leaves a sound tree of files sound. -/
lemma handle_sound (r : Request) : Within Stage.KeepsSound True (handle settings r) := by
  have replied (method : String) : Within Stage.KeepsSound True (reply settings method r) := by
    unfold reply
    dsimp only
    split
    · exact guarded_within (answer_sound folder _ _ _ _)
    · exact .pure _
    · exact .pure _
    · exact .pure _
    · exact guarded_within (notFound_within _)
  exact .bind (.ofExcept _) fun _ => .bind (replied _) fun _ => .pure _

/-- However many requests come, and whatever they are answered, a sound tree of files stays sound. -/
theorem requests_keep_sound (requests : List Request) {s : Stage Float} (sound : s.files.Sound) :
    (requests.foldl (fun s r => (handle settings r s).2) s).files.Sound := by
  induction requests generalizing s with
  | nil => exact sound
  | cons r rest ih => exact ih ((handle_sound folder r s).1 sound)

end Requests

end Server

end Rehearsal
