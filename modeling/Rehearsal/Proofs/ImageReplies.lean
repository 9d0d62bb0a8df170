import Rehearsal.Proofs.RunReplies
import Rehearsal.Proofs.StoredImages

/-!
# What requests for stored images are answered

The listing, the count, the removal and the service of single images go by the same images, wherever
the listing can be made. An image whose name ends a line is listed but not served, because its name
would stand in a header.
-/

namespace Rehearsal.Server

open Play Screenshot

variable {settings : Settings} {s : Stage Float} {name : String}

/-- The answer is no file. -/
def Reply.Fileless (r : Reply) : Prop := ∀ type length, r.body ≠ .file type length

lemma error_fileless (status : Nat) (fields : List (String × Value)) :
    (error status fields).Fileless := fun _ _ => nofun

/-! What the files tell. -/

lemma fromFiles_ok {α : Type} {read : Files → Except Failure α} {answer : α → Play Float Reply}
    {a : α} (h : read s.files = .ok a) : fromFiles read answer s = answer a s := by
  unfold fromFiles
  rw [bind_done (look_run _ s), h]
  rfl

lemma fromFiles_error {α : Type} {read : Files → Except Failure α} {answer : α → Play Float Reply}
    {f : Failure} (h : read s.files = .error f) : fromFiles read answer s = (.failed f, s) := by
  unfold fromFiles
  rw [bind_done (look_run _ s), h]
  rfl

/-! Routes. -/

lemma startsWith_append (start rest : String) : Text.startsWith (start ++ rest) start = true := by
  unfold Text.startsWith
  rw [String.toList_append, List.isPrefixOf_iff_prefix]
  exact List.prefix_append _ _

lemma below_append (directory name : String) : below directory (directory ++ "/" ++ name) =
    match name.toList with
    | [] => none
    | c :: rest => if c == '/' || rest.contains '\n' then none else some name := by
  have rest : (directory ++ "/" ++ name).toList.drop (directory.length + 1) = name.toList := by
    have front : (directory ++ "/").toList.length = directory.length + 1 := by
      rw [String.length_toList, String.length_append]
      rfl
    rw [String.toList_append, ← front, List.drop_left]
  unfold below
  rw [startsWith_append, if_pos rfl, rest]
  rcases h : name.toList with _ | ⟨c, cs⟩
  · rfl
  · have whole : String.ofList (c :: cs) = name := by rw [← h, String.ofList_toList]
    dsimp only
    rw [whole]

/-- Nothing but a screenshot is to be had below the directory of screenshots. -/
lemma resourceAt_below (name : String) : resourceAt ("/screenshots/" ++ name) =
    (below "/screenshots" ("/screenshots/" ++ name)).map .screenshot := by
  have other (path : String) (h : Text.startsWith path "/screenshots/" = false) :
      "/screenshots/" ++ name ≠ path := by
    rintro rfl
    cases (startsWith_append _ _).symm.trans h
  have asset : below "/static" ("/screenshots/" ++ name) = none := by
    unfold below
    rw [if_neg]
    simp [Text.startsWith]
  unfold resourceAt
  rw [if_neg (other _ (by decide +kernel)), if_neg (other _ (by decide +kernel)),
    if_neg (other _ (by decide +kernel)), if_neg (other _ (by decide +kernel)),
    if_neg (other _ (by decide +kernel)), asset]
  cases below "/screenshots" ("/screenshots/" ++ name) <;> rfl

/-- A name without line ends leads to its screenshot. -/
lemma resourceAt_image (entry : EntryName name) (plain : isHeaderText name = true) :
    resourceAt ("/screenshots/" ++ name) = some (.screenshot name) := by
  have path : "/screenshots/" ++ name = "/screenshots" ++ "/" ++ name := rfl
  rw [resourceAt_below, path, below_append]
  rcases h : name.toList with _ | ⟨c, rest⟩
  · exact absurd (String.toList_eq_nil_iff.mp h) entry.filled
  · have slash : c ≠ '/' := by
      rintro rfl
      exact entry.plain (by simp [h])
    have line : '\n' ∉ rest := by
      intro ends
      have none := plain
      simp only [isHeaderText, h, List.any_cons, Bool.not_eq_true', Bool.or_eq_false_iff,
        List.any_eq_false] at none
      exact (none.2 '\n' ends) rfl
    simp [slash, line]

/-- Whatever is found below the directory is the screenshot of that name. -/
lemma resourceAt_found {r : Resource} (h : resourceAt ("/screenshots/" ++ name) = some r) :
    r = .screenshot name := by
  have path : "/screenshots/" ++ name = "/screenshots" ++ "/" ++ name := rfl
  rw [resourceAt_below, path, below_append] at h
  split at h
  · cases h
  · split at h
    · cases h
    · exact (Option.some.inj h).symm

/-! Single images. -/

section Served

variable {p : Path} {fs : Files} {f : File}

/-- What the path of an entry leads to is the file for the name. -/
lemma storedFile_located {place : Location} (entry : EntryName name)
    (hl : fs.locate (p.child name) = .ok place) (there : fs.at? place = some (.file f)) :
    storedFile p name fs = .ok (some f) := by
  have resolved := resolve_file entry (Files.isFile_iff.mpr ⟨place, f, hl, there⟩)
  unfold storedFile
  rw [resolved]
  simp [Files.node?, hl, there, Except.mapError, Except.map]

/-- In a directory that can be listed, the file for a name is the image of that name. -/
lemma storedFile_iff (sound : fs.Sound) (listable : Listable fs p) (image : isImage name = true) :
    storedFile p name fs = .ok (some f) ↔ ∃ place, Stored fs p place name f := by
  constructor
  · intro h
    unfold storedFile at h
    rcases resolved : resolve fs p name with g | _ | path <;> rw [resolved] at h
    · cases h
    · cases h
    · obtain ⟨rfl, place, g, stored, hl⟩ := (resolve_iff sound listable image path).mp resolved
      simp only [Files.node?, hl, stored.file, Except.mapError, Except.map, Except.ok.injEq,
        Option.some.injEq] at h
      subst h
      exact ⟨place, stored⟩
  · rintro ⟨place, stored⟩
    have entry := (stored.fileName sound).toEntryName
    exact storedFile_located entry (stored.locate sound listable) stored.file

/-- Only a name of an entry resolves to a file. -/
lemma storedFile_entry (image : isImage name = true) (h : storedFile p name fs = .ok (some f)) :
    EntryName name := by
  unfold storedFile resolve at h
  by_cases own : (Path.ofText name).name = name
  · exact entry_of_image image own
  · rw [if_pos own] at h
    cases h

/-- An answer with the one file that is asked for, if there is one and the name can stand in a
header, and with no file otherwise. -/
def Serves (name : String) (found : File → Prop) (answer : Reply) : Prop :=
  ∀ type length, answer.body = .file type length ↔ isHeaderText name = true ∧
    ∃ f, found f ∧ type = fileType name ∧ length = f.content.size

lemma serves_fileless {found : File → Prop} {answer : Reply} (none : answer.Fileless)
    (unserved : isHeaderText name = true → ∀ f, ¬ found f) : Serves name found answer := by
  intro type length
  constructor
  · intro h
    exact absurd h (none type length)
  · rintro ⟨plain, f, there, -, -⟩
    exact absurd there (unserved plain f)

/-- What a name is found to stand for. -/
def Shown (fs : Files) (p : Path) (name : String) (f : File) : Prop :=
  isImage name = true ∧ storedFile p name fs = .ok (some f)

lemma serveScreenshot_other (settings : Settings) (s : Stage Float)
    (other : isImage name = false) :
    ∃ fields, serveScreenshot settings name s = (.done (error 400 fields), s) := by
  unfold serveScreenshot
  rw [other, if_pos (Bool.not_false)]
  exact ⟨_, rfl⟩

lemma serveScreenshot_image (image : isImage name = true) : serveScreenshot settings name =
    fromFiles (storedFile (settings .screenshotsDir) name) fun
      | some f =>
        if isHeaderText name then return ⟨200, .file (fileType name) f.content.size⟩
        else Play.fail .brokenHeader
      | none => return error 404 [("error", .text "Screenshot not found")] := by
  have shown : ¬ (!isImage name) = true := by simp [image]
  exact if_neg shown

lemma serveScreenshot_found (image : isImage name = true)
    (found : storedFile (settings .screenshotsDir) name s.files = .ok (some f)) :
    serveScreenshot settings name s = if isHeaderText name = true then
        (.done ⟨200, .file (fileType name) f.content.size⟩, s)
      else (.failed .brokenHeader, s) := by
  rw [serveScreenshot_image image, fromFiles_ok found]
  dsimp only
  split <;> rfl

lemma serveScreenshot_serves (settings : Settings) (name : String) (s : Stage Float) :
    ∃ answer, guarded (serveScreenshot settings name) s = (.done answer, s) ∧
      Serves name (Shown s.files (settings .screenshotsDir) name) answer := by
  rcases image : isImage name with _ | _
  · obtain ⟨fields, refused⟩ := serveScreenshot_other settings s image
    refine ⟨_, guarded_done refused, serves_fileless (error_fileless 400 fields) ?_⟩
    rintro - f ⟨other, -⟩
    cases image.symm.trans other
  rcases found : storedFile (settings .screenshotsDir) name s.files with g | _ | f
  · have failed : serveScreenshot settings name s = (.failed g, s) := by
      rw [serveScreenshot_image image, fromFiles_error found]
    obtain ⟨answer, told, -, none⟩ := guarded_failed failed
    refine ⟨answer, told, serves_fileless none ?_⟩
    rintro - f ⟨-, there⟩
    cases found.symm.trans there
  · have absent : serveScreenshot settings name s =
        (.done (error 404 [("error", .text "Screenshot not found")]), s) := by
      rw [serveScreenshot_image image, fromFiles_ok found]
      rfl
    refine ⟨_, guarded_done absent, serves_fileless (error_fileless 404 _) ?_⟩
    rintro - f ⟨-, there⟩
    cases found.symm.trans there
  have served := serveScreenshot_found image found
  rcases plain : isHeaderText name with _ | _
  · rw [plain, if_neg Bool.false_ne_true] at served
    obtain ⟨answer, told, -, none⟩ := guarded_failed served
    refine ⟨answer, told, serves_fileless none ?_⟩
    intro header
    cases plain.symm.trans header
  · rw [if_pos plain] at served
    refine ⟨_, guarded_done served, fun type length => ⟨?_, ?_⟩⟩
    · rintro ⟨⟩
      exact ⟨plain, f, ⟨image, found⟩, rfl, rfl⟩
    · rintro ⟨-, g, ⟨-, again⟩, rfl, rfl⟩
      cases found.symm.trans again
      rfl

end Served

/-! Requests. -/

lemma notFound_answered (path : String) (s : Stage Float) :
    ∃ answer, guarded (notFound path) s = (.done answer, s) ∧ answer.Fileless := by
  rcases timestamp_stage s with ⟨text, told⟩ | ⟨f, untold⟩
  · have missing : notFound path s = (.done (error 404 [("error", .text "Route not found"),
        ("path", .text path), ("timestamp", .text text)]), s) := bind_done told
    exact ⟨_, guarded_done missing, error_fileless 404 _⟩
  · have failed : notFound path s = (.failed f, s) := bind_failed untold
    obtain ⟨answer, told, -, none⟩ := guarded_failed failed
    exact ⟨answer, told, none⟩

lemma route_unfound (method : String) {path : String} (here : path ≠ "")
    (h : resourceAt path = none) :
    route method path = .redirected ∨ route method path = .refused ∨
      route method path = .missing := by
  unfold route
  rw [if_neg here, h]
  dsimp only
  split
  · split
    · exact .inl rfl
    · exact .inr (.inl rfl)
  · exact .inr (.inr rfl)

lemma reply_found (settings : Settings) {method : String} {r : Request} {resource : Resource}
    (h : route method (pathOf r.path) = .found resource) : reply settings method r =
      guarded (answer settings method r (pathOf r.path) resource) := by
  unfold reply
  dsimp only
  rw [h]

/-- A request for what is not there is answered without a file. -/
lemma reply_unfound (settings : Settings) (method : String) (s : Stage Float) {r : Request}
    (here : pathOf r.path ≠ "") (h : resourceAt (pathOf r.path) = none) :
    ∃ answer, reply settings method r s = (.done answer, s) ∧ answer.Fileless := by
  unfold reply
  rcases route_unfound method here h with away | refused | missing
  · rw [away]
    exact ⟨⟨308, .empty⟩, rfl, fun _ _ => nofun⟩
  · rw [refused]
    exact ⟨⟨405, .empty⟩, rfl, fun _ _ => nofun⟩
  · rw [missing]
    exact notFound_answered _ s

/-- Whatever name is asked for, its file is served if there is one and the name can stand in a
header. -/
lemma get_serves (settings : Settings) (s : Stage Float) {r : Request}
    (asked : pathOf r.path = "/screenshots/" ++ name) :
    ∃ answer, reply settings "GET" r s = (.done answer, s) ∧
      Serves name (Shown s.files (settings .screenshotsDir) name) answer := by
  have here : "/screenshots/" ++ name ≠ "" := by
    intro empty
    have letters := congrArg String.toList empty
    simp at letters
  rcases found : resourceAt ("/screenshots/" ++ name) with _ | resource
  · rw [← asked] at found here
    obtain ⟨answer, told, none⟩ := reply_unfound settings "GET" s here found
    refine ⟨answer, told, serves_fileless none ?_⟩
    rintro plain f ⟨image, there⟩
    have leads := resourceAt_image (storedFile_entry image there) plain
    rw [asked, leads] at found
    cases found
  · obtain rfl := resourceAt_found found
    have routed : route "GET" (pathOf r.path) = .found (.screenshot name) := by
      unfold route
      rw [asked, if_neg here, found]
      rfl
    rw [reply_found settings routed]
    exact serveScreenshot_serves settings name s

/-! The directory as a whole. -/

section Whole

variable {r : Request} {es : List Screenshot.Entry}

lemma get_listing (asked : pathOf r.path = "/screenshots")
    (h : listing s.files (settings .screenshotsDir) = .ok es) :
    reply settings "GET" r s = (.done (ok [("total", .int es.length),
      ("screenshots", .list (es.map fun e => .object (entryFields e)))]), s) := by
  have routed : route "GET" (pathOf r.path) = .found .screenshots := by
    rw [asked]
    decide +kernel
  have listed : listScreenshots settings s = (.done (ok [("total", .int es.length),
      ("screenshots", .list (es.map fun e => .object (entryFields e)))]), s) := by
    unfold listScreenshots
    rw [fromFiles_ok h]
    rfl
  rw [reply_found settings routed]
  exact guarded_done listed

lemma delete_images (sound : s.files.Sound) (asked : pathOf r.path = "/screenshots")
    (h : listing s.files (settings .screenshotsDir) = .ok es) :
    ∃ files, reply settings "DELETE" r s = (.done (ok
        [("message", .text (toString es.length ++ " screenshots deleted")),
          ("deleted", .int es.length), ("total", .int es.length)]), { s with files }) ∧
      Cleared s.files (settings .screenshotsDir) files := by
  have routed : route "DELETE" (pathOf r.path) = .found .screenshots := by
    rw [asked]
    decide +kernel
  obtain ⟨files, removed, cleared⟩ := clear_of_listing sound h
  have told : clearScreenshots settings s = (.done (ok
      [("message", .text (toString es.length ++ " screenshots deleted")),
        ("deleted", .int es.length), ("total", .int es.length)]), { s with files }) := by
    unfold clearScreenshots
    rw [fromFiles_ok removed]
    rfl
  refine ⟨files, ?_, cleared⟩
  rw [reply_found settings routed]
  exact guarded_done told

lemma get_health (asked : pathOf r.path = "/health")
    (h : listing s.files (settings .screenshotsDir) = .ok es) {m : Moment}
    (hm : Clock.moment s.epoch s.now = .ok m) :
    ∃ fields present, reply settings "GET" r s = (.done (ok fields), s) ∧
      fields.lookup "screenshots" = some (.object [("count", .int es.length),
        ("directory_exists", .flag present)]) ∧
      s.files.isDirectory (settings .screenshotsDir) = .ok present := by
  have routed : route "GET" (pathOf r.path) = .found .health := by
    rw [asked]
    decide +kernel
  obtain ⟨present, reached, counted⟩ := stats_of_listing h
  have told : timestamp s = (.done (m.iso ++ "+00:00"), s) := by
    have shown : moment s = (.done m, s) := by
      unfold moment
      rw [hm]
    exact bind_done shown
  have healthy : health settings s = (.done (ok [("status", .text "healthy"),
      ("timestamp", .text (m.iso ++ "+00:00")),
      ("uptime", .float (Decimal.roundTo 3 (s.wall - Float.ofInt s.epoch))),
      ("screenshots", .object [("count", .int es.length), ("directory_exists", .flag present)])]),
      s) := by
    unfold health
    rw [fromFiles_ok counted, bind_done (look_run _ s), bind_done told]
    rfl
  have replied := (congrFun (reply_found settings routed) s).trans (guarded_done healthy)
  exact ⟨_, present, replied, rfl, reached⟩

end Whole

/-- How the requests for images agree with the listing. -/
structure Agreement (settings : Settings) (s : Stage Float) (es : List Screenshot.Entry) : Prop where
  listed : Listed s.files (settings .screenshotsDir) es
  /-- Only names of entries of the directory are listed. -/
  named : ∀ e ∈ es, EntryName e.name
  shown : ∀ r : Request, pathOf r.path = "/screenshots" →
    reply settings "GET" r s = (.done (ok [("total", .int es.length),
      ("screenshots", .list (es.map fun e => .object (entryFields e)))]), s)
  counted : ∀ r : Request, pathOf r.path = "/health" →
    ∀ m, Clock.moment s.epoch s.now = .ok m →
    ∃ fields present, reply settings "GET" r s = (.done (ok fields), s) ∧
      fields.lookup "screenshots" = some (.object [("count", .int es.length),
        ("directory_exists", .flag present)]) ∧
      s.files.isDirectory (settings .screenshotsDir) = .ok present
  cleared : ∀ r : Request, pathOf r.path = "/screenshots" →
    ∃ files, reply settings "DELETE" r s = (.done (ok
        [("message", .text (toString es.length ++ " screenshots deleted")),
          ("deleted", .int es.length), ("total", .int es.length)]), { s with files }) ∧
      Cleared s.files (settings .screenshotsDir) files
  served : ∀ (r : Request) (name : String), pathOf r.path = "/screenshots/" ++ name →
    ∃ answer, reply settings "GET" r s = (.done answer, s) ∧
      Serves name (fun f => ∃ place, Stored s.files (settings .screenshotsDir) place name f) answer

/-- A directory can be listed when its entries can be looked at and its images date from years of the
calendar. Then all requests go by the listed images, except that one whose name ends a line is not
served. What is no name of an entry is never served. -/
theorem images_agree (settings : Settings) (s : Stage Float) (sound : s.files.Sound) :
    ((∃ es, listing s.files (settings .screenshotsDir) = .ok es) ↔
      Listable s.files (settings .screenshotsDir)) ∧
    (∀ es, listing s.files (settings .screenshotsDir) = .ok es → Agreement settings s es) ∧
    ∀ (r : Request) (name : String), pathOf r.path = "/screenshots/" ++ name → ¬ EntryName name →
      ∃ answer, reply settings "GET" r s = (.done answer, s) ∧ answer.Fileless := by
  refine ⟨listing_isOk sound, fun es h => ?_, fun r name asked other => ?_⟩
  · have listable := (listing_isOk sound).mp ⟨es, h⟩
    have listed := listing_listed sound h
    constructor
    · exact listed
    · intro e he
      obtain ⟨place, f, stored, -⟩ := (listed.entries e).mp he
      exact (stored.fileName sound).toEntryName
    · exact fun r asked => get_listing asked h
    · exact fun r asked m hm => get_health asked h hm
    · exact fun r asked => delete_images sound asked h
    · intro r name asked
      obtain ⟨answer, told, serves⟩ := get_serves settings s asked
      have same (f : File) : Shown s.files (settings .screenshotsDir) name f ↔
          ∃ place, Stored s.files (settings .screenshotsDir) place name f := by
        constructor
        · rintro ⟨image, found⟩
          exact (storedFile_iff sound listable image).mp found
        · rintro ⟨place, stored⟩
          exact ⟨stored.image, (storedFile_iff sound listable stored.image).mpr ⟨place, stored⟩⟩
      refine ⟨answer, told, fun type length => ?_⟩
      rw [serves type length]
      simp only [same]
  · obtain ⟨answer, told, serves⟩ := get_serves settings s asked
    refine ⟨answer, told, fun type length served => ?_⟩
    obtain ⟨-, f, ⟨image, found⟩, -, -⟩ := (serves type length).mp served
    exact other (storedFile_entry image found)

/-- Two images in a directory, with a text and a directory that is named like an image. -/
def gallery : Files where
  home := ["work"]
  entries := [(["work", "screenshots"], .directory),
    (["work", "screenshots", "a.png"], .file ⟨.zeros 3, 1000000000⟩),
    (["work", "screenshots", "b.JPG"], .file ⟨.zeros 5, 2000000000⟩),
    (["work", "screenshots", "c.txt"], .file ⟨.zeros 7, 0⟩),
    (["work", "screenshots", "d.png"], .directory)]

theorem images_agree_gallery : gallery.Sound ∧
    listing gallery ⟨.here, ["screenshots"]⟩ =
      .ok [⟨"b.JPG", 5, 2000, "01/01/1970 00:00:02"⟩, ⟨"a.png", 3, 1000, "01/01/1970 00:00:01"⟩] ∧
    Agreement Settings.standard { now := 0, files := gallery }
      [⟨"b.JPG", 5, 2000, "01/01/1970 00:00:02"⟩, ⟨"a.png", 3, 1000, "01/01/1970 00:00:01"⟩] ∧
    ∃ answer, reply Settings.standard "GET" ⟨"GET", "/screenshots/%2e%2e", .nothing⟩
      { now := 0, files := gallery } = (.done answer, { now := 0, files := gallery }) ∧
      answer.Fileless := by
  have sound : gallery.Sound := by decide +kernel
  have images : imagesIn gallery ⟨.here, ["screenshots"]⟩ = .ok (["work", "screenshots"],
      [("a.png", ⟨.zeros 3, 1000000000⟩), ("b.JPG", ⟨.zeros 5, 2000000000⟩)]) := by decide +kernel
  have told : entriesOf [("a.png", ⟨.zeros 3, 1000000000⟩), ("b.JPG", ⟨.zeros 5, 2000000000⟩)] =
      .ok [⟨"a.png", 3, 1000, "01/01/1970 00:00:01"⟩,
        ⟨"b.JPG", 5, 2000, "01/01/1970 00:00:02"⟩] := by decide +kernel
  have listed : listing gallery ⟨.here, ["screenshots"]⟩ =
      .ok [⟨"b.JPG", 5, 2000, "01/01/1970 00:00:02"⟩,
        ⟨"a.png", 3, 1000, "01/01/1970 00:00:01"⟩] := by
    unfold listing
    rw [images]
    dsimp only
    rw [told]
    simp [List.mergeSort, before]
  obtain ⟨-, agreed, unnamed⟩ := images_agree Settings.standard { now := 0, files := gallery } sound
  have above : ¬ EntryName ".." := by decide +kernel
  exact ⟨sound, listed, agreed _ listed, unnamed _ ".." (by decide +kernel) above⟩

/-- One image in a directory, with a line end in its name. -/
def broken : Files where
  home := ["work"]
  entries := [(["work", "screenshots"], .directory),
    (["work", "screenshots", "a\rb.png"], .file ⟨.zeros 1, 0⟩)]

/-- An image that is listed, but for which its address gets no file. -/
theorem line_end_unserved :
    listing broken ⟨.here, ["screenshots"]⟩ =
      .ok [⟨"a\rb.png", 1, 0, "01/01/1970 00:00:00"⟩] ∧
    pathOf "/screenshots/a%0Db.png" = "/screenshots/a\rb.png" ∧
    ∃ answer, reply Settings.standard "GET" ⟨"GET", "/screenshots/a%0Db.png", .nothing⟩
      { now := 0, files := broken } = (.done answer, { now := 0, files := broken }) ∧
      answer.status = 500 ∧ answer.Fileless := by
  have images : imagesIn broken ⟨.here, ["screenshots"]⟩ =
      .ok (["work", "screenshots"], [("a\rb.png", ⟨.zeros 1, 0⟩)]) := by decide +kernel
  have told : entriesOf [("a\rb.png", ⟨.zeros 1, 0⟩)] =
      .ok [⟨"a\rb.png", 1, 0, "01/01/1970 00:00:00"⟩] := by decide +kernel
  have listed : listing broken ⟨.here, ["screenshots"]⟩ =
      .ok [⟨"a\rb.png", 1, 0, "01/01/1970 00:00:00"⟩] := by
    unfold listing
    rw [images]
    dsimp only
    rw [told]
    simp
  have path : pathOf "/screenshots/a%0Db.png" = "/screenshots/" ++ "a\rb.png" := by decide +kernel
  have status : (reply Settings.standard "GET" ⟨"GET", "/screenshots/a%0Db.png", .nothing⟩
      { now := 0, files := broken }).1.value?.map (·.status) = some 500 := by decide +kernel
  have unfit : isHeaderText "a\rb.png" = false := by decide +kernel
  obtain ⟨answer, replied, serves⟩ := get_serves Settings.standard { now := 0, files := broken }
    (r := ⟨"GET", "/screenshots/a%0Db.png", .nothing⟩) path
  rw [replied] at status
  refine ⟨listed, path, answer, replied, Option.some.inj status, fun type length served => ?_⟩
  cases unfit.symm.trans ((serves type length).mp served).1

end Rehearsal.Server
