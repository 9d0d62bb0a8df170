import Rehearsal.Proofs.CapturePoints
import Rehearsal.Proofs.FileNames

/-!
# The names of captures

The name of the file of a capture tells the mark of the capture from all others, whatever the moments
are at which the captures are made: its parts between underscores are the words of the label, the
attempt and the stamp. What follows in the name is the same for all captures of a run.
-/

namespace Rehearsal

namespace Screenshot

/-- Letters, digits and hyphens, at least one. -/
structure Word (w : List Char) : Prop where
  filled : w ≠ []
  safe : ∀ c ∈ w, isSafe c = true
  whole : '_' ∉ w

lemma replaceRuns_safe {w : List Char} (safe : ∀ c ∈ w, isSafe c = true) (rest : List Char) :
    replaceRuns false (w ++ rest) = w ++ replaceRuns false rest := by
  induction w with
  | nil => rfl
  | cons c w ih =>
    have first : isSafe c = true := safe c (by simp)
    rw [List.cons_append, replaceRuns, if_pos first, ih fun d hd => safe d (by simp [hd])]
    rfl

lemma replaceRuns_word {w : List Char} (h : Word w) (inRun : Bool) (rest : List Char) :
    replaceRuns inRun (w ++ rest) = w ++ replaceRuns false rest := by
  rcases w with _ | ⟨c, w⟩
  · exact absurd rfl h.filled
  · have first : isSafe c = true := h.safe c (by simp)
    rw [List.cons_append, replaceRuns, if_pos first,
      replaceRuns_safe fun d hd => h.safe d (by simp [hd])]
    rfl

/-- Words with blanks between them become words with underscores between them. -/
lemma replaceRuns_words {ws : List (List Char)} (h : ∀ w ∈ ws, Word w) (inRun : Bool) :
    replaceRuns inRun ([' '].intercalate ws) = ['_'].intercalate ws := by
  induction ws generalizing inRun with
  | nil => rfl
  | cons w ws ih =>
    have first : Word w := h w (by simp)
    rcases ws with _ | ⟨v, vs⟩
    · have alone := replaceRuns_word first inRun []
      simpa [replaceRuns] using alone
    · have blank : isSafe ' ' = false := by decide
      have rest := ih (fun u hu => h u (by simp [hu])) true
      rw [List.intercalate_cons_cons, List.append_assoc, replaceRuns_word first,
        List.intercalate_cons_cons, List.append_assoc]
      simp [replaceRuns, blank, rest]

lemma trimChars_eq_self {drop : Char → Bool} {s : List Char}
    (first : ∀ c, s.head? = some c → drop c = false)
    (last : ∀ c, s.getLast? = some c → drop c = false) : Text.trimChars drop s = s := by
  have front (l : List Char) (h : ∀ c, l.head? = some c → drop c = false) :
      l.dropWhile drop = l := by
    rcases l with _ | ⟨c, l⟩
    · rfl
    · rw [List.dropWhile_cons_of_neg (by simp [h c rfl])]
  unfold Text.trimChars
  rw [front s first, front s.reverse fun c hc => last c (by simpa using hc), List.reverse_reverse]

/-- What stands between words does not come first or last. -/
lemma ends_of_words {sep : Char} {ws : List (List Char)} (h : ∀ w ∈ ws, Word w) {c : Char}
    (hc : ([sep].intercalate ws).head? = some c ∨ ([sep].intercalate ws).getLast? = some c) :
    ∃ w ∈ ws, c ∈ w := by
  induction ws with
  | nil => simp [List.intercalate] at hc
  | cons w ws ih =>
    obtain ⟨d, tail, hw⟩ := List.exists_cons_of_ne_nil (h w (by simp)).filled
    rcases ws with _ | ⟨v, vs⟩
    · rw [List.intercalate_singleton] at hc
      rcases hc with first | last
      · exact ⟨w, by simp, List.mem_of_head? first⟩
      · exact ⟨w, by simp, List.mem_of_getLast? last⟩
    · rw [List.intercalate_cons_cons] at hc
      rcases hc with first | last
      · rw [hw] at first
        cases first
        exact ⟨w, by simp, by simp [hw]⟩
      · have more : ([sep].intercalate (v :: vs)).getLast? = some c := by
          obtain ⟨e, rest, hv⟩ := List.exists_cons_of_ne_nil (h v (by simp)).filled
          have filled : [sep].intercalate (v :: vs) ≠ [] := by
            rcases vs with _ | ⟨u, us⟩
            · simp [hv]
            · simp [List.intercalate_cons_cons, hv]
          rw [List.getLast?_append] at last
          rcases hl : ([sep].intercalate (v :: vs)).getLast? with _ | z
          · exact absurd (List.getLast?_eq_none_iff.mp hl) filled
          · rw [hl] at last
            exact last
        obtain ⟨u, hu, hcu⟩ := ih (fun u hu => h u (by simp [hu])) (.inr more)
        exact ⟨u, by simp [hu], hcu⟩

/-- A label of words keeps all of them. -/
lemma safeLabel_words {ws : List (List Char)} (h : ∀ w ∈ ws, Word w) (more : ws ≠ [])
    {label : String} (hl : label.toList = [' '].intercalate ws) :
    (safeLabel label).toList = ['_'].intercalate ws := by
  have kept {c : Char} (hc : ∃ w ∈ ws, c ∈ w) : (c == '_') = false := by
    obtain ⟨w, hw, hcw⟩ := hc
    exact beq_eq_false_iff_ne.mpr fun e => (h w hw).whole (e ▸ hcw)
  have trimmed : Text.trimChars (· == '_') (replaceRuns false label.toList) =
      ['_'].intercalate ws := by
    rw [hl, replaceRuns_words h]
    exact trimChars_eq_self (fun c hc => kept (ends_of_words h (.inl hc)))
      fun c hc => kept (ends_of_words h (.inr hc))
  have filled : ['_'].intercalate ws ≠ [] := by
    obtain ⟨w, rest, rfl⟩ := List.exists_cons_of_ne_nil more
    obtain ⟨c, tail, hw⟩ := List.exists_cons_of_ne_nil (h w (by simp)).filled
    rcases rest with _ | ⟨v, vs⟩
    · simp [hw]
    · simp [List.intercalate_cons_cons, hw]
  unfold safeLabel
  dsimp only
  rw [trimmed, if_neg (by simpa using filled), String.toList_ofList]

/-- Texts of words that differ have different words. -/
lemma words_injective {ws vs : List (List Char)} (hw : ∀ w ∈ ws, '_' ∉ w) (hv : ∀ v ∈ vs, '_' ∉ v)
    (more : ws ≠ []) (others : vs ≠ []) (h : ['_'].intercalate ws = ['_'].intercalate vs) :
    ws = vs := by
  have split := congrArg (List.splitOn '_') h
  rwa [List.splitOn_intercalate '_' hw more, List.splitOn_intercalate '_' hv others] at split

end Screenshot

namespace Run.Mark

open Screenshot

/-- The words of the label of a mark. -/
def labelWords : Mark → List String
  | initial => ["initial"]
  | loop index _ => ["action", toString index, "loop"]
  | action index => ["action", toString index]
  | error index => ["error", "on", "action", toString index]
  | final => ["final"]

/-- The words that tell an attempt from others. -/
def attemptWords : Mark → List String
  | loop _ n => ["attempt", toString n]
  | _ => []

/-- The words that a mark is told by. -/
def words (m : Mark) : List String := m.labelWords ++ m.attemptWords

lemma word_toString (n : Nat) : Word (toString n).toList := by
  have read : (toString n).toList = Nat.toDigits 10 n := Nat.toList_repr
  rw [read]
  have digits (c : Char) (hc : c ∈ Nat.toDigits 10 n) : c.isDigit = true := digit_of_mem_digits hc
  exact ⟨Nat.toDigits_ne_nil, fun c hc => safe_of_digit (digits c hc),
    fun hc => absurd (digits _ hc) (by decide)⟩

lemma word_label (m : Mark) : ∀ w ∈ m.labelWords.map String.toList, Word w := by
  have fixed {s : String} (h : s.toList ≠ [] ∧ s.toList.all (fun c => isSafe c && c != '_') = true) :
      Word s.toList := by
    obtain ⟨filled, safe⟩ := h
    simp only [List.all_eq_true, Bool.and_eq_true, bne_iff_ne] at safe
    exact ⟨filled, fun c hc => (safe c hc).1, fun hc => (safe _ hc).2 rfl⟩
  have initial : Word "initial".toList := fixed (by decide +kernel)
  have action : Word "action".toList := fixed (by decide +kernel)
  have loop : Word "loop".toList := fixed (by decide +kernel)
  have error : Word "error".toList := fixed (by decide +kernel)
  have on : Word "on".toList := fixed (by decide +kernel)
  have final : Word "final".toList := fixed (by decide +kernel)
  cases m <;>
    simp only [labelWords, List.map_cons, List.map_nil, List.forall_mem_cons, List.not_mem_nil,
      initial, action, loop, error, on, final, word_toString, true_and, false_imp_iff,
      forall_true_iff]

lemma labelWords_ne_nil (m : Mark) : m.labelWords.map String.toList ≠ [] := by
  cases m <;> simp [labelWords]

lemma step_words (m : Mark) : m.step.toList = [' '].intercalate (m.labelWords.map String.toList) := by
  cases m <;> simp [step, labelWords, List.intercalate]

lemma int_repr_cancel {i j : Int} (h : i.repr = j.repr) : i = j := by
  have signed (k l : Nat) : (Int.ofNat k).repr ≠ (Int.negSucc l).repr := by
    intro e
    have hyphen : '-' ∈ (Int.ofNat k).repr.toList := by
      rw [e, Int.repr, String.toList_append]
      simp
    rw [Int.repr, Nat.toList_repr] at hyphen
    exact absurd (digit_of_mem_digits hyphen) (by decide)
  cases i <;> cases j
  · rw [repr_cancel h]
  · exact absurd h (signed _ _)
  · exact absurd h.symm (signed _ _)
  · have same := repr_cancel (append_cancel h)
    rw [Nat.succ.inj same]

/-- Marks that differ have different words. -/
lemma words_apart : Function.Injective words := by
  intro m n h
  have counted {i j : Nat} (e : toString i = toString j) : i = j := repr_cancel e
  have tried {i j : Int} (e : toString i = toString j) : i = j := int_repr_cancel e
  cases m <;> cases n <;>
    simp only [words, labelWords, attemptWords, List.cons_append, List.nil_append,
      List.cons.injEq, reduceCtorEq, and_false, and_true, true_and] at h
  case initial.initial | final.final => rfl
  case initial.final | final.initial => exact absurd h (by decide)
  case loop.loop => rw [counted h.1, tried h.2]
  case action.action | error.error => rw [counted h]

/-- What the name for a capture has between underscores, before the ending of the image type. -/
def parts (m : Mark) (moment : Moment) : List (List Char) :=
  "debug".toList :: (m.words.map String.toList ++ [moment.stamp.toList ++ ['.']])

/-- The name for a capture of a mark, part by part. -/
lemma fileName_parts (m : Mark) (imageType : String) (moment : Moment) :
    (fileName m.step m.attempt imageType moment).toList =
      ['_'].intercalate (m.parts moment) ++ (fileEnding imageType).toList := by
  have label := safeLabel_words (word_label m) m.labelWords_ne_nil m.step_words
  unfold fileName parts
  simp only [String.toList_append, label]
  cases m <;> simp [words, labelWords, attemptWords, attempt, List.intercalate]

/-- The parts have only the letters of words, digits, hyphens and the point. -/
lemma mem_parts {m : Mark} {moment : Moment} {w : List Char} (hw : w ∈ m.parts moment) {c : Char}
    (hc : c ∈ w) : (isSafe c = true ∧ c ≠ '_') ∨ c = '.' := by
  have digit (h : c.isDigit = true) : isSafe c = true ∧ c ≠ '_' := by
    refine ⟨safe_of_digit h, ?_⟩
    rintro rfl
    exact absurd h (by decide)
  have hyphen : isSafe '-' = true ∧ '-' ≠ '_' := by decide
  have letter : isSafe 'T' = true ∧ 'T' ≠ '_' := by decide
  have fixed {s : String} (h : s.toList.all (fun c => isSafe c && c != '_') = true)
      (hc : c ∈ s.toList) : isSafe c = true ∧ c ≠ '_' := by
    simp only [List.all_eq_true, Bool.and_eq_true, bne_iff_ne] at h
    exact h c hc
  rcases List.mem_cons.mp hw with rfl | hw
  · exact .inl (fixed (by decide +kernel) hc)
  rcases List.mem_append.mp hw with hw | hw
  · rw [words, List.map_append] at hw
    rcases List.mem_append.mp hw with hw | hw
    · have word := word_label m w hw
      exact .inl ⟨word.safe c hc, fun e => word.whole (e ▸ hc)⟩
    · cases m with
      | loop index n =>
        simp only [attemptWords, List.map_cons, List.map_nil, List.mem_cons, List.not_mem_nil,
          or_false] at hw
        rcases hw with rfl | rfl
        · exact .inl (fixed (by decide +kernel) hc)
        · rcases mem_int hc with number | rfl
          · exact .inl (digit number)
          · exact .inl hyphen
      | _ => cases hw
  · rw [List.mem_singleton.mp hw] at hc
    rcases List.mem_append.mp hc with stamp | point
    · rcases mem_stamp stamp with number | rfl | rfl
      · exact .inl (digit number)
      · exact .inl hyphen
      · exact .inl letter
    · exact .inr (List.mem_singleton.mp point)

/-- A name tells its mark, whatever the moment is. -/
lemma parts_apart {m n : Mark} {a b : Moment}
    (h : ['_'].intercalate (m.parts a) = ['_'].intercalate (n.parts b)) : m = n := by
  have whole (m : Mark) (a : Moment) (w : List Char) (hw : w ∈ m.parts a) : '_' ∉ w := by
    intro hc
    rcases mem_parts hw hc with ⟨-, other⟩ | point
    · exact other rfl
    · exact absurd point (by decide)
  have same := words_injective (whole m a) (whole n b) nofun nofun h
  have told := congrArg List.dropLast (List.cons.inj same).2
  rw [List.dropLast_concat, List.dropLast_concat] at told
  exact words_apart ((List.map_injective_iff.mpr fun _ _ => String.toList_injective) told)

lemma plain_parts (m : Mark) (moment : Moment) : '/' ∉ ['_'].intercalate (m.parts moment) := by
  have between (ws : List (List Char)) (hc : '/' ∈ ['_'].intercalate ws) : ∃ w ∈ ws, '/' ∈ w := by
    induction ws with
    | nil => simp [List.intercalate] at hc
    | cons w ws ih =>
      rcases ws with _ | ⟨v, vs⟩
      · exact ⟨w, by simp, by simpa using hc⟩
      · rw [List.intercalate_cons_cons, List.append_assoc] at hc
        rcases List.mem_append.mp hc with hc | hc
        · exact ⟨w, by simp, hc⟩
        · rcases List.mem_cons.mp hc with e | hc
          · exact absurd e (by decide)
          · obtain ⟨u, hu, hcu⟩ := ih hc
            exact ⟨u, by simp [hu], hcu⟩
  intro h
  obtain ⟨w, hw, hc⟩ := between _ h
  rcases mem_parts hw hc with ⟨safe, -⟩ | point
  · exact absurd safe (by decide)
  · exact absurd point (by decide)

lemma head_parts (m : Mark) (moment : Moment) (rest : List Char) :
    (['_'].intercalate (m.parts moment) ++ rest).head? = some 'd' := by
  obtain ⟨v, vs, more⟩ := List.exists_cons_of_ne_nil
    (List.append_ne_nil_of_right_ne_nil (m.words.map String.toList)
      (List.cons_ne_nil (moment.stamp.toList ++ ['.']) []))
  rw [parts, more, List.intercalate_cons_cons]
  rfl

end Run.Mark

namespace Screenshot

/-- The image type has nothing after a slash that a path could lead down to. -/
def Flat (imageType : String) : Prop :=
  ∀ p ∈ (Text.pieces '/' (fileEnding imageType).toList).tail, p = [] ∨ p = ['.']

instance (imageType : String) : Decidable (Flat imageType) :=
  inferInstanceAs (Decidable (∀ p ∈ _, _))

/-- The names that the image type leads down to after a slash. -/
def further (imageType : String) : List String :=
  ((Text.pieces '/' (fileEnding imageType).toList).tail.map String.ofList).filter
    fun n => n ≠ "" ∧ n ≠ "."

lemma further_nil {imageType : String} : further imageType = [] ↔ Flat imageType := by
  have text (p : List Char) (s : String) : String.ofList p = s ↔ p = s.toList :=
    ⟨fun h => h ▸ String.toList_ofList.symm, fun h => h ▸ String.ofList_toList⟩
  rw [further, List.filter_eq_nil_iff, List.forall_mem_map, Flat]
  refine forall₂_congr fun p _ => ?_
  simp [text, or_iff_not_imp_left]

/-- Without a slash, nothing stands after one. -/
lemma flat_of_plain {imageType : String} (h : '/' ∉ imageType.toList) : Flat imageType := by
  have ending : '/' ∉ (fileEnding imageType).toList := by
    unfold fileEnding
    split
    · decide +kernel
    · exact h
  intro p hp
  rw [Text.pieces_of_not_mem ending] at hp
  cases hp

/-- A type that leads further down has no ending of its own. -/
lemma fileEnding_deep {imageType : String} (deep : ¬ Flat imageType) :
    fileEnding imageType = imageType := by
  refine if_neg ?_
  rintro rfl
  exact deep (flat_of_plain (by decide +kernel))

/-- The names after a slash are the last ones of such a type. -/
lemma namesOf_deep {imageType : String} (deep : ¬ Flat imageType) :
    ∃ front, Path.namesOf imageType.toList = front ++ further imageType := by
  rw [further, fileEnding_deep deep, Path.namesOf]
  refine ⟨(((Text.pieces '/' imageType.toList).take 1).map String.ofList).filter
    fun n => n ≠ "" ∧ n ≠ ".", ?_⟩
  rw [← List.filter_append, ← List.map_append, ← List.drop_one, List.take_append_drop]

open Run

/-- The name that the file for a capture adds to the directory, up to any slash. -/
def entryName (imageType : String) (m : Mark) (moment : Moment) : String :=
  String.ofList (['_'].intercalate (m.parts moment) ++
    (Text.pieces '/' (fileEnding imageType).toList).headD [])

variable {imageType : String} {c : Camera} {m n : Mark} {a b : Moment}

/-- The name of a file tells the mark. -/
lemma entryName_apart (h : entryName imageType m a = entryName imageType n b) : m = n := by
  have lists := String.ofList_injective h
  exact Mark.parts_apart (List.append_cancel_right lists)

/-- What is read of the name for a capture: the name of an entry, and what stands after slashes of
the image type. -/
lemma namesOf_fileName (imageType : String) (m : Mark) (moment : Moment) :
    EntryName (entryName imageType m moment) ∧
    Path.namesOf (fileName m.step m.attempt imageType moment).toList =
      entryName imageType m moment :: further imageType := by
  obtain ⟨p, ps, ending, whole⟩ := Text.pieces_append (m.plain_parts moment)
    (fileEnding imageType).toList
  have first : entryName imageType m moment =
      String.ofList (['_'].intercalate (m.parts moment) ++ p) := by
    rw [entryName, ending]
    rfl
  have letter : (entryName imageType m moment).toList.head? = some 'd' := by
    rw [first, String.toList_ofList]
    exact m.head_parts moment p
  have other (name : String) (h : name.toList.head? ≠ some 'd') :
      entryName imageType m moment ≠ name := fun e => h (e ▸ letter)
  have entry : EntryName (entryName imageType m moment) := by
    refine ⟨other "" (by simp), other "." (by simp), other ".." (by simp), ?_⟩
    rw [first, String.toList_ofList]
    exact Text.not_mem_of_mem_pieces (whole ▸ List.mem_cons_self ..)
  refine ⟨entry, ?_⟩
  rw [Path.namesOf, m.fileName_parts, whole, List.map_cons, ← first, further, ending]
  exact List.filter_cons_of_pos (decide_eq_true ⟨entry.filled, entry.here⟩)

/-- The file for a capture stands below the directory. -/
lemma fileFor_mark (c : Camera) (m : Mark) (moment : Moment) :
    c.fileFor m.step m.attempt moment = ⟨c.directory.anchor, c.directory.names ++
      Path.namesOf (fileName m.step m.attempt c.imageType moment).toList⟩ := by
  have anchor : Path.anchorOf (fileName m.step m.attempt c.imageType moment).toList = .here := by
    refine Path.anchorOf_here ?_
    rw [m.fileName_parts, m.head_parts]
    decide
  unfold Camera.fileFor Path.resolve Path.ofText
  dsimp only
  rw [anchor, if_pos rfl]

/-- Where nothing stands after a slash, the file for a capture is an entry of the directory. -/
lemma fileFor_flat (flat : Flat c.imageType) (m : Mark) (moment : Moment) :
    EntryName (entryName c.imageType m moment) ∧
    c.fileFor m.step m.attempt moment =
      c.directory.child (entryName c.imageType m moment) := by
  obtain ⟨entry, names⟩ := namesOf_fileName c.imageType m moment
  rw [further_nil.mpr flat] at names
  exact ⟨entry, by rw [fileFor_mark, names, Path.child_entry _ entry]⟩

/-- Where something does, the file has the last name that the type spells, whatever the capture. -/
lemma fileFor_deep (deep : ¬ Flat c.imageType) (m : Mark) (moment : Moment) :
    (c.fileFor m.step m.attempt moment).name = (Path.ofText c.imageType).name := by
  obtain ⟨-, names⟩ := namesOf_fileName c.imageType m moment
  obtain ⟨front, spelled⟩ := namesOf_deep deep
  have more : further c.imageType ≠ [] := further_nil.not.mpr deep
  rw [fileFor_mark, names, Path.ofText, Path.name, Path.name, spelled, ← List.singleton_append,
    List.getLast?_append_of_ne_nil _ (List.append_ne_nil_of_right_ne_nil _ more),
    List.getLast?_append_of_ne_nil _ more, List.getLast?_append_of_ne_nil _ more]

end Screenshot
end Rehearsal
