import Rehearsal.Proofs.ImageReplies
import Rehearsal.Proofs.RequestPaths

/-!
# The addresses in listings

A listing tells an address for each image. Its name is put there as it is, so the address leads to
the image exactly when the name stands for itself; then the image is served.
-/

namespace Rehearsal.Server

open Play Screenshot

variable {settings : Settings} {s : Stage Float} {name : String}

/-- What stands for itself has no line end in it, so it can be part of a header. -/
lemma Literal.isHeaderText (literal : Literal name.toList) : isHeaderText name = true := by
  have none : ∀ c ∈ name.toList, ¬ (c == '\n' || c == '\r') = true := by
    intro c hc ends
    have kept := literal.kept c hc
    simp only [isKept, Bool.and_eq_true, bne_iff_ne] at kept
    rcases Bool.or_eq_true_iff.mp ends with line | back
    · exact kept.2 (eq_of_beq line)
    · exact kept.1.2 (eq_of_beq back)
  unfold Server.isHeaderText
  rw [List.any_eq_false.mpr none, Bool.not_false]

/-- What a path is found to lead to stands at that path. -/
lemma resource_of_found {method path : String} {r : Resource}
    (h : route method path = .found r) : resourceAt path = some r := by
  by_cases empty : path = ""
  · unfold route at h
    rw [if_pos empty] at h
    split at h <;> cases h
  rcases found : resourceAt path with _ | other
  · rcases route_unfound method empty found with away | refused | missing
    · cases away.symm.trans h
    · cases refused.symm.trans h
    · cases missing.symm.trans h
  · unfold route at h
    rw [if_neg empty, found] at h
    dsimp only at h
    by_cases options : method = "OPTIONS"
    · rw [if_pos options] at h
      cases h
    · rw [if_neg options] at h
      split at h
      · cases h
        rfl
      · cases h

/-- The address with a name asks for that image only if the name stands for itself. -/
lemma routed_literal
    (h : route "GET" (pathOf ("/screenshots/" ++ name)) = .found (.screenshot name)) :
    Literal name.toList := by
  have found := resource_of_found h
  rw [pathOf_screenshot] at found
  have same : name = String.ofList (readBack name.toList) :=
    Resource.screenshot.inj (resourceAt_found found)
  have letters := congrArg String.toList same
  rw [String.toList_ofList] at letters
  exact readBack_eq_self.mp letters.symm

lemma route_literal (literal : Literal name.toList) (entry : EntryName name) :
    route "GET" (pathOf ("/screenshots/" ++ name)) = .found (.screenshot name) := by
  unfold route
  rw [pathOf_literal literal, if_neg (screenshot_filled name),
    resourceAt_image entry literal.isHeaderText]
  rfl

/-- The request for an address. -/
def Request.get (path : String) : Request := ⟨"GET", path, .nothing⟩

/-- A reply to a request that can be made is its answer, with the headers that belong to it. -/
lemma handle_get {path : String} {answer : Reply} (checked : checkTarget path = .ok ())
    (replied : reply settings "GET" (.get path) s = (.done answer, s)) :
    handle settings (.get path) s = (.done (withCrossOrigin settings answer), s) := by
  have method : Text.upper "GET" = "GET" := by decide +kernel
  have passed : (Play.ofExcept (τ := Float) (Request.get path).check) s = (.done (), s) := by
    unfold Request.check
    rw [show checkTarget (Request.get path).path = .ok () from checked]
    rfl
  unfold handle
  rw [bind_done passed, show Text.upper (Request.get path).method = "GET" from method,
    bind_done replied]
  rfl

/-- The file that a name leads to is served at the address with the name. -/
lemma handle_image {f : File} (literal : Literal name.toList) (image : isImage name = true)
    (found : storedFile (settings .screenshotsDir) name s.files = .ok (some f)) :
    handle settings (.get ("/screenshots/" ++ name)) s =
      (.done (withCrossOrigin settings ⟨200, .file (fileType name) f.content.size⟩), s) := by
  refine handle_get (checkTarget_screenshot name) ?_
  have routed : route "GET" (pathOf (Request.get ("/screenshots/" ++ name)).path) =
      .found (.screenshot name) := route_literal literal (storedFile_entry image found)
  have served : serveScreenshot settings name s =
      (.done ⟨200, .file (fileType name) f.content.size⟩, s) := by
    rw [serveScreenshot_found image found, if_pos literal.isHeaderText]
  rw [reply_found settings routed]
  exact guarded_done served

/-- The address that a listing tells for an image leads to it exactly when the name of the image
stands for itself. Then the image is what a request gets. -/
theorem addresses_lead (settings : Settings) (s : Stage Float) (sound : s.files.Sound)
    {es : List Screenshot.Entry} (h : listing s.files (settings .screenshotsDir) = .ok es)
    {e : Screenshot.Entry} (he : e ∈ es) :
    (route "GET" (pathOf e.url) = .found (.screenshot e.name) ↔ Literal e.name.toList) ∧
    (Literal e.name.toList → ∃ place f, Stored s.files (settings .screenshotsDir) place e.name f ∧
      Entry.ofFile e.name f = .ok e ∧ handle settings (.get e.url) s =
        (.done (withCrossOrigin settings ⟨200, .file (fileType e.name) f.content.size⟩), s)) := by
  have listable := (listing_isOk sound).mp ⟨es, h⟩
  obtain ⟨place, f, stored, shown⟩ := ((listing_listed sound h).entries e).mp he
  constructor
  · constructor
    · exact routed_literal
    · intro literal
      exact route_literal literal (stored.fileName sound).toEntryName
  · intro literal
    have found := (storedFile_iff sound listable stored.image).mpr ⟨place, stored⟩
    exact ⟨place, f, stored, shown, handle_image literal stored.image found⟩

/-- A directory with one image. -/
def hung (name : String) : Files where
  home := ["work"]
  entries := [(["work", "screenshots"], .directory),
    (["work", "screenshots", name], .file ⟨.zeros 3, 0⟩)]

lemma listing_hung {e : Screenshot.Entry}
    (images : imagesIn (hung name) ⟨.here, ["screenshots"]⟩ =
      .ok (["work", "screenshots"], [(name, ⟨.zeros 3, 0⟩)]))
    (told : Entry.ofFile name ⟨.zeros 3, 0⟩ = .ok e) :
    listing (hung name) ⟨.here, ["screenshots"]⟩ = .ok [e] := by
  unfold listing
  rw [images]
  simp [entriesOf, told, Except.map]

/-- The percent sign starts no escape here, so the name stands for itself. -/
theorem addresses_lead_percent : (hung "100% é.png").Sound ∧
    listing (hung "100% é.png") ⟨.here, ["screenshots"]⟩ =
      .ok [⟨"100% é.png", 3, 0, "01/01/1970 00:00:00"⟩] ∧
    Literal "100% é.png".toList ∧
    ∃ place f, Stored (hung "100% é.png") ⟨.here, ["screenshots"]⟩ place "100% é.png" f ∧
      Entry.ofFile "100% é.png" f = .ok ⟨"100% é.png", 3, 0, "01/01/1970 00:00:00"⟩ ∧
      handle Settings.standard (.get "/screenshots/100% é.png")
          { now := 0, files := hung "100% é.png" } =
        (.done (withCrossOrigin Settings.standard
          ⟨200, .file (fileType "100% é.png") f.content.size⟩),
          { now := 0, files := hung "100% é.png" }) := by
  have sound : (hung "100% é.png").Sound := by decide +kernel
  have told : Entry.ofFile "100% é.png" ⟨.zeros 3, 0⟩ =
      .ok ⟨"100% é.png", 3, 0, "01/01/1970 00:00:00"⟩ := by decide +kernel
  have listed := listing_hung (by decide +kernel) told
  have literal : Literal "100% é.png".toList := readBack_eq_self.mp (by decide +kernel)
  have leads := addresses_lead Settings.standard { now := 0, files := hung "100% é.png" } sound
    listed (List.mem_singleton_self _)
  exact ⟨sound, listed, literal, leads.2 literal⟩

/-- A question mark in the name of an image cuts its address off. -/
theorem query_unserved :
    listing (hung "a?b.png") ⟨.here, ["screenshots"]⟩ =
      .ok [⟨"a?b.png", 3, 0, "01/01/1970 00:00:00"⟩] ∧
    (⟨"a?b.png", 3, 0, "01/01/1970 00:00:00"⟩ : Screenshot.Entry).url = "/screenshots/a?b.png" ∧
    (handle Settings.standard (.get "/screenshots/a?b.png")
      { now := 0, files := hung "a?b.png" }).1.value?.map (·.reply.status) = some 400 := by
  have told : Entry.ofFile "a?b.png" ⟨.zeros 3, 0⟩ =
      .ok ⟨"a?b.png", 3, 0, "01/01/1970 00:00:00"⟩ := by decide +kernel
  have listed := listing_hung (by decide +kernel) told
  exact ⟨listed, by decide +kernel, by decide +kernel⟩

end Rehearsal.Server
