import Mathlib.Data.List.TakeDrop
import Mathlib.Data.List.TakeWhile
import Rehearsal.Selector.Fallback
import Rehearsal.Selector.Predicate

/-!
# Reading the attribute selector of hints

The selector that is written for the attributes of hints can be read back: an element name up to
the first bracket, then groups of a name and a quoted value, in which a backslash stands before a
character that is to be taken as it is. Values may be any text. Whatever they hold, the reader
finds the same groups, so that no value can end its own quotes or add a group.
-/

namespace Rehearsal

namespace Selector

open Text

/-! ## The reader -/

/-- A value up to its closing quote, and what follows that. A backslash takes the next character
as it is. -/
def quoted? : List Char → Option (List Char × List Char)
  | [] | ['\\'] => none
  | '"' :: after => some ([], after)
  | '\\' :: c :: rest | c :: rest => (quoted? rest).map fun (value, after) => (c :: value, after)

/-- A group `[name="value"]`, and what follows it. -/
def test? : List Char → Option ((String × String) × List Char)
  | '[' :: rest => match name? rest with
    | some (name, '=' :: '"' :: rest) => match quoted? rest with
      | some (value, ']' :: after) => some ((String.ofList name, String.ofList value), after)
      | _ => none
    | _ => none
  | _ => none

lemma quoted?_shorter {s value after : List Char} (h : quoted? s = some (value, after)) :
    after.length < s.length := by
  fun_induction quoted? s generalizing value with
  | case1 => cases h
  | case2 => cases h
  | case3 rest =>
    cases h
    exact Nat.lt_succ_self _
  | case4 c rest ih =>
    obtain ⟨⟨inner, _⟩, read, same⟩ := Option.map_eq_some_iff.mp h
    cases same
    exact Nat.lt_succ_of_lt (Nat.lt_succ_of_lt (ih read))
  | case5 c rest _ _ _ ih =>
    obtain ⟨⟨inner, _⟩, read, same⟩ := Option.map_eq_some_iff.mp h
    cases same
    exact Nat.lt_succ_of_lt (ih read)

lemma name?_rest {s name rest : List Char} (h : name? s = some (name, rest)) :
    rest.length ≤ s.length := by
  unfold name? at h
  split at h
  · cases h
  · obtain ⟨-, rfl⟩ := Prod.mk.inj ((List.span_eq_takeWhile_dropWhile _ s).symm.trans
      (Option.some.inj h))
    exact List.length_dropWhile_le _ s

lemma test?_shorter {s after : List Char} {a : String × String} (h : test? s = some (a, after)) :
    after.length < s.length := by
  unfold test? at h
  split at h
  · split at h
    · next named =>
      split at h
      · next read =>
        cases h
        have name := name?_rest named
        have value := quoted?_shorter read
        simp only [List.length_cons] at name value ⊢
        omega
      · cases h
    · cases h
  · cases h

/-- Groups up to the end, with nothing between them. -/
def tests? (s : List Char) : Option Attributes :=
  if s = [] then some []
  else match h : test? s with
    | none => none
    | some (a, rest) =>
      have := test?_shorter h
      (tests? rest).map (a :: ·)
termination_by s.length

/-- A selector as an element name, if there is one, and its groups. -/
def attributes? (selector : String) : Option (Option String × Attributes) :=
  match selector.toList with
  | 'c' :: 's' :: 's' :: '=' :: rest =>
    let (tag, groups) := rest.span (· ≠ '[')
    (tests? groups).map fun as => (if tag = [] then none else some (String.ofList tag), as)
  | _ => none

/-! ## What is written is read -/

/-- A name that an attribute can have in a selector. -/
def IsName (name : String) : Prop := name.toList ≠ [] ∧ ∀ c ∈ name.toList, isNameChar c

/-- A name that begins with a letter. -/
def IsTag (tag : String) : Prop :=
  ∃ c rest, tag.toList = c :: rest ∧ c.isAlpha ∧ ∀ d ∈ rest, isNameChar d

lemma quoted?_escape (value after : List Char) :
    quoted? (escape value ++ '"' :: after) = some (value, after) := by
  induction value with
  | nil => rfl
  | cons c rest ih =>
    by_cases special : c = '\\' ∨ c = '"'
    · have written : escape (c :: rest) = '\\' :: c :: escape rest := by
        rcases special with rfl | rfl <;> rfl
      rw [written, List.cons_append, List.cons_append, quoted?, ih]
      rfl
    · obtain ⟨plain, unquoted⟩ := not_or.mp special
      have written : escape (c :: rest) = c :: escape rest := by simp [escape, plain, unquoted]
      rw [written, List.cons_append, quoted?, ih]
      · rfl
      · simp [plain]
      · exact unquoted
      · simp [plain]

/-- A run ends at the first character that is not of its kind. -/
lemma span_ends {kind : Char → Bool} {run after : List Char} {c : Char} (h : ∀ d ∈ run, kind d)
    (ends : kind c = false) : (run ++ c :: after).span kind = (run, c :: after) := by
  rw [List.span_eq_takeWhile_dropWhile, List.takeWhile_append_of_pos h,
    List.dropWhile_append_of_pos h, List.takeWhile_cons_of_neg (by simp [ends]),
    List.dropWhile_cons_of_neg (by simp [ends]), List.append_nil]

lemma name?_append {name after : List Char} {c : Char} (filled : name ≠ [])
    (named : ∀ d ∈ name, isNameChar d) (ends : isNameChar c = false) :
    name? (name ++ c :: after) = some (name, c :: after) := by
  unfold name?
  rw [span_ends named ends]
  split
  · next h => exact absurd (Prod.mk.inj h).1 filled
  · rfl

lemma attributeTest_toList (a : String × String) : (attributeTest a).toList =
    '[' :: (a.1.toList ++ '=' :: '"' :: (escape a.2.toList ++ ['"', ']'])) := by
  simp [attributeTest]

lemma test?_attributeTest {a : String × String} (named : IsName a.1) (after : List Char) :
    test? ((attributeTest a).toList ++ after) = some (a, after) := by
  have name : name? (a.1.toList ++ '=' :: '"' :: (escape a.2.toList ++ '"' :: ']' :: after)) =
      some (a.1.toList, '=' :: '"' :: (escape a.2.toList ++ '"' :: ']' :: after)) :=
    name?_append named.1 named.2 (by decide)
  have value := quoted?_escape a.2.toList (']' :: after)
  simp only [attributeTest_toList, List.cons_append, List.append_assoc, List.nil_append, test?,
    name, value, String.ofList_toList]

lemma tests?_written {as : Attributes} (named : ∀ a ∈ as, IsName a.1) :
    tests? (as.flatMap fun a => (attributeTest a).toList) = some as := by
  induction as with
  | nil => rw [List.flatMap_nil, tests?, if_pos rfl]
  | cons a rest ih =>
    have first := test?_attributeTest (named a List.mem_cons_self)
      (rest.flatMap fun a => (attributeTest a).toList)
    have others := ih fun b hb => named b (List.mem_cons_of_mem a hb)
    rw [List.flatMap_cons, tests?, if_neg (by simp [attributeTest_toList])]
    split
    · next none => cases first.symm.trans none
    · next b after found =>
      cases first.symm.trans found
      rw [others]
      rfl

lemma not_mem_tag {tag : String} (h : IsTag tag) {c : Char} (letter : c.isAlpha = false)
    (named : isNameChar c = false) : c ∉ tag.toList := by
  obtain ⟨first, rest, split, begins, continues⟩ := h
  rw [split]
  intro hc
  rcases List.mem_cons.mp hc with rfl | hc
  · exact absurd (letter.symm.trans begins) (by decide)
  · exact absurd (named.symm.trans (continues c hc)) (by decide)

lemma ofAttributes_toList (tag : Option String) (as : Attributes) :
    (ofAttributes tag as).toList = 'c' :: 's' :: 's' :: '=' ::
      ((tag.getD "").toList ++ as.flatMap fun a => (attributeTest a).toList) := by
  simp [ofAttributes, String.toList_join, List.flatMap_def, Function.comp_def]

/-- What is written for an element name and attributes reads as these. -/
lemma attributes?_ofAttributes {tag : Option String} {as : Attributes} (some : as ≠ [])
    (tagged : ∀ t ∈ tag, IsTag t) (named : ∀ a ∈ as, IsName a.1) :
    attributes? (ofAttributes tag as) = .some (tag, as) := by
  have front : ∀ c ∈ (tag.getD "").toList, (c ≠ '[' : Bool) := by
    cases tag with
    | none => simp
    | some t =>
      intro c hc
      simpa using fun same : c = '[' =>
        not_mem_tag (tagged t rfl) (by decide) (by decide) (same ▸ hc)
  obtain ⟨rest, bracket⟩ : ∃ rest,
      as.flatMap (fun a => (attributeTest a).toList) = '[' :: rest := by
    obtain ⟨a, others, rfl⟩ := List.exists_cons_of_ne_nil some
    exact ⟨_, by rw [List.flatMap_cons, attributeTest_toList, List.cons_append]⟩
  have groups := tests?_written named
  rw [bracket] at groups
  have split : ((tag.getD "").toList ++ '[' :: rest).span (· ≠ '[') =
      ((tag.getD "").toList, '[' :: rest) := span_ends front (by simp)
  unfold attributes?
  rw [ofAttributes_toList, bracket]
  simp only [split, groups, Option.map_some]
  cases tag with
  | none => rfl
  | some t =>
    obtain ⟨first, more, letters, -⟩ := tagged t rfl
    have filled : t.toList ≠ [] := by simp [letters]
    simp only [Option.getD_some, if_neg filled, String.ofList_toList]

end Selector

namespace Hints

open Selector

/-- Hints with attributes have one fallback by these, and its selector reads back as the element
name and the attributes of the hints, in order, whatever the values are. -/
theorem attributes_read_back (h : Hints) (expression : String) (some : h.attributes ≠ [])
    (tagged : ∀ t ∈ h.tag, IsTag t) (named : ∀ a ∈ h.attributes, IsName a.1) :
    ∃ s, (h.fallbacks expression).filter (·.name = "attributes") = [.attributes s] ∧
      attributes? s = .some (h.tag, h.attributes) := by
  refine ⟨ofAttributes h.tag h.attributes, ?_, attributes?_ofAttributes some tagged named⟩
  have filled : h.attributes.isEmpty = false := by simpa using some
  by_cases silent : h.text.getD "" = "" <;>
    simp [fallbacks, filled, silent, List.filter, Fallback.name]

/-- Values with quotes, with backslashes at the end and before a quote, and with a bracket that
would close the group. -/
theorem attributes_read_back_quotes :
    let h : Hints :=
      { attributes := [("data-email", "a\"]\\"), ("title", "\\\"")], tag := some "li" }
    h.attributes ≠ [] ∧ (∀ t ∈ h.tag, IsTag t) ∧ (∀ a ∈ h.attributes, IsName a.1) ∧
      ∃ s, (h.fallbacks "//li").filter (·.name = "attributes") = [.attributes s] ∧
        attributes? s = some (some "li", [("data-email", "a\"]\\"), ("title", "\\\"")]) := by
  intro h
  have tagged : ∀ t ∈ h.tag, IsTag t := by
    rintro t ⟨⟩
    exact ⟨'l', ['i'], rfl, by decide, List.all_eq_true.mp rfl⟩
  have named : ∀ a ∈ h.attributes, IsName a.1 := by
    intro a ha
    simp only [h, List.mem_cons, List.not_mem_nil, or_false] at ha
    rcases ha with rfl | rfl <;> exact ⟨by decide, List.all_eq_true.mp rfl⟩
  exact ⟨by decide, tagged, named, attributes_read_back h "//li" (by decide) tagged named⟩

end Hints

end Rehearsal
