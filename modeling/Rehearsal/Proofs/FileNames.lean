import Mathlib.Tactic.Lemma
import Rehearsal.Files.Path
import Rehearsal.Screenshot.Label

/-!
# The names of files

What stands between the slashes of a text has no slash in it, and neither has the name of
the file for a capture, whatever its label. Both name an entry of the directory they are taken
from, unless nothing or two points are left.
-/

namespace Rehearsal

/-- A name that an entry of a directory can have. -/
structure EntryName (name : String) : Prop where
  filled : name ≠ ""
  here : name ≠ "."
  above : name ≠ ".."
  plain : '/' ∉ name.toList

instance (name : String) : Decidable (EntryName name) :=
  decidable_of_iff (name ≠ "" ∧ name ≠ "." ∧ name ≠ ".." ∧ '/' ∉ name.toList)
    ⟨fun ⟨filled, here, above, plain⟩ => ⟨filled, here, above, plain⟩,
      fun h => ⟨h.filled, h.here, h.above, h.plain⟩⟩

namespace Text

variable {sep : Char} {s : List Char}

lemma not_mem_of_mem_pieces {p : List Char} (h : p ∈ pieces sep s) : sep ∉ p := by
  induction s generalizing p with
  | nil => simp_all [pieces]
  | cons c rest ih =>
    unfold pieces at h
    split at h
    · rcases List.mem_cons.mp h with rfl | h
      · exact List.not_mem_nil
      · exact ih h
    · next hc =>
      have other : sep ≠ c := fun e => hc (by simp [e])
      split at h
      · simp_all
      · next q qs hq =>
        rcases List.mem_cons.mp h with rfl | h
        · exact List.not_mem_cons_of_ne_of_not_mem other (ih (by simp [hq]))
        · exact ih (by simp [hq, h])

/-- What has no separator in it goes before the first piece. -/
lemma pieces_append {front : List Char} (h : sep ∉ front) (s : List Char) :
    ∃ p ps, pieces sep s = p :: ps ∧ pieces sep (front ++ s) = (front ++ p) :: ps := by
  have some (s : List Char) : ∃ p ps, pieces sep s = p :: ps := by
    unfold pieces
    split
    · exact ⟨_, _, rfl⟩
    · split
      · exact ⟨_, _, rfl⟩
      · split <;> exact ⟨_, _, rfl⟩
  obtain ⟨p, ps, hs⟩ := some s
  refine ⟨p, ps, hs, ?_⟩
  induction front with
  | nil => exact hs
  | cons c front ih =>
    obtain ⟨other, front⟩ := List.ne_and_not_mem_of_not_mem_cons h
    simp [pieces, other.symm, ih front]

lemma pieces_of_not_mem (h : sep ∉ s) : pieces sep s = [s] := by
  obtain ⟨p, ps, empty, whole⟩ := pieces_append h []
  cases empty
  simpa using whole

end Text

namespace Path

variable {name : String}

/-- The last name of a path is none that an entry can have. -/
def Nameless (s : String) : Prop := (ofText s).name = "" ∨ (ofText s).name = ".."

/-- Every name of a path is one that an entry can have, or leads back. -/
def Proper (p : Path) : Prop := ∀ n ∈ p.names, n = ".." ∨ EntryName n

/-- A path that has been read is proper. -/
lemma ofText_proper (s : String) : (ofText s).Proper := by
  intro n read
  obtain ⟨piece, kept⟩ := List.mem_filter.mp read
  obtain ⟨p, hp, rfl⟩ := List.mem_map.mp piece
  have ⟨filled, here⟩ : String.ofList p ≠ "" ∧ String.ofList p ≠ "." := by simpa using kept
  by_cases above : String.ofList p = ".."
  · exact .inl above
  · exact .inr ⟨filled, here, above, by simpa using Text.not_mem_of_mem_pieces hp⟩

lemma nameless_or_entry (s : String) : Nameless s ∨ EntryName (ofText s).name := by
  unfold Nameless Path.name
  rcases h : (ofText s).names.getLast? with _ | last
  · exact .inl (.inl rfl)
  · rcases ofText_proper s last (List.mem_of_getLast? h) with above | entry
    · exact .inl (.inr above)
    · exact .inr entry

lemma anchorOf_here {s : List Char} (h : s.head? ≠ some '/') : anchorOf s = .here := by
  cases s with
  | nil => rfl
  | cons c rest =>
    unfold anchorOf
    split <;> simp_all

/-- The name of an entry is read as itself. -/
lemma ofText_entry (entry : EntryName name) : ofText name = ⟨.here, [name]⟩ := by
  have anchor : anchorOf name.toList = .here :=
    anchorOf_here fun slash => entry.plain (List.mem_of_head? slash)
  have names : namesOf name.toList = [name] := by
    simp [namesOf, Text.pieces_of_not_mem entry.plain, entry.filled, entry.here]
  rw [ofText, anchor, names]

lemma child_entry (p : Path) (entry : EntryName name) :
    p.child name = { p with names := p.names ++ [name] } := by
  simp [child, entry.filled, entry.here]

lemma child_above (p : Path) : p.child ".." = { p with names := p.names ++ [".."] } := by
  simp [child]

lemma resolve_entry (p : Path) (entry : EntryName name) : p.resolve name = p.child name := by
  simp [resolve, ofText_entry entry, child_entry p entry]

/-- The last name of a read path, taken as that of an entry, makes a proper path. -/
lemma Proper.child {p : Path} (h : p.Proper) (s : String) : (p.child (ofText s).name).Proper := by
  have extended {last : String} (fit : last = ".." ∨ EntryName last) :
      Proper { p with names := p.names ++ [last] } := by
    intro n hn
    rcases List.mem_append.mp hn with hn | hn
    · exact h n hn
    · exact List.mem_singleton.mp hn ▸ fit
  rcases nameless_or_entry s with (none | above) | entry
  · simpa [Path.child, none] using h
  · rw [above, child_above]
    exact extended (.inl rfl)
  · rw [child_entry p entry]
    exact extended (.inr entry)

lemma Proper.resolve {p : Path} (h : p.Proper) (s : String) : (p.resolve s).Proper := by
  unfold Path.resolve
  dsimp only
  split
  · intro n hn
    rcases List.mem_append.mp hn with hn | last
    · exact h n hn
    · exact ofText_proper s n last
  · exact ofText_proper s

end Path

namespace Screenshot

lemma safe_of_mem_replaceRuns {inRun : Bool} {c : Char} {s : List Char}
    (h : c ∈ replaceRuns inRun s) : isSafe c = true := by
  induction s generalizing inRun with
  | nil => cases h
  | cons d rest ih =>
    unfold replaceRuns at h
    split at h
    · next safe =>
      rcases List.mem_cons.mp h with rfl | h
      · exact safe
      · exact ih h
    · split at h
      · exact ih h
      · rcases List.mem_cons.mp h with rfl | h
        · decide
        · exact ih h

lemma mem_of_mem_trimChars {drop : Char → Bool} {c : Char} {s : List Char}
    (h : c ∈ Text.trimChars drop s) : c ∈ s := by
  unfold Text.trimChars at h
  have front := (List.dropWhile_sublist drop).subset (List.mem_reverse.mp h)
  exact (List.dropWhile_sublist drop).subset (List.mem_reverse.mp front)

lemma safe_of_mem_safeLabel {label : String} {c : Char} (h : c ∈ (safeLabel label).toList) :
    isSafe c = true := by
  unfold safeLabel at h
  dsimp only at h
  split at h
  · have step : ∀ c ∈ "step".toList, isSafe c = true := List.all_eq_true.mp (by decide +kernel)
    exact step c h
  · rw [String.toList_ofList] at h
    exact safe_of_mem_replaceRuns (mem_of_mem_trimChars h)

lemma digit_of_mem_digits {c : Char} {n : Nat} (h : c ∈ Nat.toDigits 10 n) : c.isDigit = true :=
  Nat.isDigit_of_mem_toDigits (by decide) (by decide) h

lemma digit_of_mem_padded {c : Char} {width n : Nat}
    (h : c ∈ (Decimal.padded width n).toList) : c.isDigit = true := by
  have zero : '0'.isDigit = true := by decide
  simp only [Decimal.padded, Decimal.padLeft, Decimal.digitChars, String.toList_ofList,
    List.mem_append, List.mem_replicate] at h
  rcases h with ⟨-, rfl⟩ | h
  · exact zero
  · exact digit_of_mem_digits h

lemma mem_int {c : Char} {n : Int} (h : c ∈ n.repr.toList) : c.isDigit = true ∨ c = '-' := by
  cases n with
  | ofNat n =>
    rw [Int.repr, Nat.toList_repr] at h
    exact .inl (digit_of_mem_digits h)
  | negSucc n =>
    rw [Int.repr, String.toList_append, Nat.toList_repr] at h
    rcases List.mem_append.mp h with h | h
    · exact .inr (by simpa using h)
    · exact .inl (digit_of_mem_digits h)

/-- A stamp has digits and hyphens, and the letter that begins the time of day. -/
lemma mem_stamp {c : Char} {m : Moment} (h : c ∈ m.stamp.toList) :
    c.isDigit = true ∨ c = '-' ∨ c = 'T' := by
  simp only [Moment.stamp, Moment.clock, String.toList_append, List.mem_append] at h
  have hyphen (h : c ∈ "-".toList) : c = '-' := by simpa using h
  have letter (h : c ∈ "T".toList) : c = 'T' := by simpa using h
  have year (h : c ∈ (toString m.date.year).toList) : c.isDigit = true ∨ c = '-' := mem_int h
  have padded {width n : Nat} (h : c ∈ (Decimal.padded width n).toList) : c.isDigit = true :=
    digit_of_mem_padded h
  grind

lemma safe_of_digit {c : Char} (h : c.isDigit = true) : isSafe c = true := by
  simp [isSafe, Char.isAlphanum, h]

lemma safe_of_mem_int {c : Char} {n : Int} (h : c ∈ n.repr.toList) : isSafe c = true := by
  rcases mem_int h with digit | rfl
  · exact safe_of_digit digit
  · decide

lemma safe_of_mem_stamp {c : Char} {m : Moment} (h : c ∈ m.stamp.toList) : isSafe c = true := by
  rcases mem_stamp h with digit | rfl | rfl
  · exact safe_of_digit digit
  · decide
  · decide

/-- The name of the file for a capture is safe up to the point before the ending. -/
lemma fileName_split (label : String) (attempt : Option Int) (imageType : String) (m : Moment) :
    ∃ stem, (∀ c ∈ stem, isSafe c = true) ∧ stem.head? = some 'd' ∧
      (fileName label attempt imageType m).toList =
        stem ++ '.' :: (fileEnding imageType).toList := by
  obtain ⟨suffix, tried, name⟩ : ∃ suffix : String, (∀ c ∈ suffix.toList, isSafe c = true) ∧
      fileName label attempt imageType m = "debug_" ++ safeLabel label ++ suffix ++ "_" ++
        m.stamp ++ "." ++ fileEnding imageType := by
    cases attempt with
    | none => exact ⟨"", nofun, rfl⟩
    | some n =>
      have word : ∀ c ∈ "_attempt_".toList, isSafe c = true :=
        List.all_eq_true.mp (by decide +kernel)
      refine ⟨"_attempt_" ++ n.repr, fun c hc => ?_, rfl⟩
      rcases List.mem_append.mp (String.toList_append ▸ hc) with hc | hc
      · exact word c hc
      · exact safe_of_mem_int hc
  have opening : ∀ c ∈ "debug_".toList, isSafe c = true := List.all_eq_true.mp (by decide +kernel)
  have between : ∀ c ∈ "_".toList, isSafe c = true := List.all_eq_true.mp (by decide +kernel)
  refine ⟨("debug_" ++ safeLabel label ++ suffix ++ "_" ++ m.stamp).toList, fun c hc => ?_, ?_, ?_⟩
  · simp only [String.toList_append, List.mem_append] at hc
    rcases hc with (((hc | hc) | hc) | hc) | hc
    · exact opening c hc
    · exact safe_of_mem_safeLabel hc
    · exact tried c hc
    · exact between c hc
    · exact safe_of_mem_stamp hc
  · simp
  · simp [name]

/-- Whatever the label, the file of a capture is an entry of the directory it goes to. -/
lemma entry_fileName {imageType : String} (known : imageType = "jpeg" ∨ imageType = "png")
    (label : String) (attempt : Option Int) (m : Moment) :
    EntryName (fileName label attempt imageType m) := by
  obtain ⟨stem, safe, first, split⟩ := fileName_split label attempt imageType m
  have other (name : String) (h : name.toList.head? ≠ some 'd') :
      fileName label attempt imageType m ≠ name := by
    rintro rfl
    rw [split, List.head?_append, first] at h
    exact h rfl
  refine ⟨other "" (by simp), other "." (by simp), other ".." (by simp), ?_⟩
  have ending : '/' ∉ (fileEnding imageType).toList := by
    rcases known with rfl | rfl <;> decide +kernel
  rw [split, List.mem_append, List.mem_cons]
  rintro (slash | point | slash)
  · exact absurd (safe _ slash) (by decide)
  · exact absurd point (by decide)
  · exact ending slash

end Screenshot
end Rehearsal
