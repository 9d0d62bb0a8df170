import Mathlib.Tactic.Lemma
import Rehearsal.Address
import Rehearsal.Address.Mention

/-!
# Where an address mentions a host

A text without slash, question mark and number sign never reaches across one of these. So what an
address mentions of that kind stands in front of the authority, in it or behind it, and an address
that mentions a host need not be one of its pages.
-/

namespace Rehearsal

namespace Text

variable {needle front back : List Char} {d : Char}

/-- What does not hold a character begins in front of it or not at all. -/
lemma prefix_append_cons (apart : d ∉ needle) :
    needle <+: front ++ d :: back ↔ needle <+: front := by
  refine ⟨fun h => ?_, fun h => h.trans (List.prefix_append ..)⟩
  rcases List.prefix_or_prefix_of_prefix h (List.prefix_append ..) with shorter | ⟨more, rfl⟩
  · exact shorter
  · cases more with
    | nil => simp
    | cons e more =>
      obtain ⟨rfl, -⟩ := List.cons_prefix_cons.mp ((List.prefix_append_right_inj front).mp h)
      exact absurd (by simp) apart

lemma occursIn_nil (some : needle ≠ []) : occursIn needle [] = false := by
  simpa [occursIn] using some

/-- A character cuts a text into two, and what does not hold it occurs in one of them. -/
lemma occursIn_append_cons (some : needle ≠ []) (apart : d ∉ needle) :
    occursIn needle (front ++ d :: back) = (occursIn needle front || occursIn needle back) := by
  have begins (front : List Char) :
      needle.isPrefixOf (front ++ d :: back) = needle.isPrefixOf front := by
    rw [Bool.eq_iff_iff, List.isPrefixOf_iff_prefix, List.isPrefixOf_iff_prefix]
    exact prefix_append_cons apart
  induction front with
  | nil =>
    have nowhere : needle.isPrefixOf (d :: back) = false := by
      rw [← List.nil_append (d :: back), begins]
      simpa [Bool.eq_false_iff] using some
    rw [List.nil_append, occursIn_nil some, occursIn, nowhere]
  | cons c front ih =>
    rw [List.cons_append, occursIn, ih, ← List.cons_append, begins, occursIn, Bool.or_assoc]

/-- A character that is not in the text sought says nothing. -/
lemma occursIn_cons_apart (some : needle ≠ []) (apart : d ∉ needle) :
    occursIn needle (d :: back) = occursIn needle back := by
  rw [← List.nil_append (d :: back), occursIn_append_cons some apart, occursIn_nil some,
    Bool.false_or]

end Text

namespace Address
open Text

/-- What an authority is made of; the other characters end it. -/
def isInside (c : Char) : Bool := c != '/' && c != '?' && c != '#'

/-- A text that can stand in an authority. -/
def IsPlace (host : String) : Prop := host ≠ "" ∧ host.toList.all isInside

instance (host : String) : Decidable (IsPlace host) :=
  inferInstanceAs (Decidable (host ≠ "" ∧ _))

/-- Cuts an address in front of the first two slashes that follow a colon. -/
def atSlashes : List Char → Option (List Char × List Char)
  | [] => none
  | c :: rest =>
    if c = ':' && ['/', '/'].isPrefixOf rest then some ([c], rest)
    else (atSlashes rest).map fun (front, back) => (c :: front, back)

/-- The authority of an address: between `://` and the next slash, question mark or number sign. -/
def authority? (url : String) : Option String :=
  (atSlashes url.toList).map fun (_, back) => String.ofList (authorityOf back)

/-- What stands around the authority. An address without one is nothing else. -/
def around (url : String) : List String :=
  match atSlashes url.toList with
  | none => [url]
  | some (front, back) => [String.ofList front, String.ofList ((back.drop 2).dropWhile isInside)]

/-- The host stands in the authority. -/
def Hosted (url host : String) : Prop := ∃ place ∈ authority? url, contains place host

/-- The host stands in front of the authority or behind it. -/
def Aside (url host : String) : Prop := ∃ part ∈ around url, contains part host

instance (url host : String) : Decidable (Hosted url host) :=
  inferInstanceAs (Decidable (∃ place ∈ authority? url, _))

instance (url host : String) : Decidable (Aside url host) :=
  inferInstanceAs (Decidable (∃ part ∈ around url, _))

example : authority? "https://a.example:80/b?next=c://d.example" = some "a.example:80" := by decide

lemma atSlashes_some {s front back : List Char} (h : atSlashes s = some (front, back)) :
    ∃ rest, back = '/' :: '/' :: rest ∧ s = front ++ back := by
  induction s generalizing front with
  | nil => cases h
  | cons c s ih =>
    rw [atSlashes] at h
    split at h
    · next slashes =>
      cases h
      obtain ⟨rest, rfl⟩ := List.isPrefixOf_iff_prefix.mp (Bool.and_eq_true_iff.mp slashes).2
      exact ⟨rest, rfl, rfl⟩
    · obtain ⟨⟨front, back⟩, cut, same⟩ := Option.map_eq_some_iff.mp h
      cases same
      obtain ⟨rest, rfl, rfl⟩ := ih cut
      exact ⟨rest, rfl, rfl⟩

/-- What is sought in a text that can go on where it stops stands in front of its first end or
behind it. -/
lemma occursIn_span {needle : List Char} (some : needle ≠ []) (inside : ∀ c ∈ needle, isInside c)
    (s : List Char) : occursIn needle s =
      (occursIn needle (s.takeWhile isInside) || occursIn needle (s.dropWhile isInside)) := by
  have whole := s.takeWhile_append_dropWhile (p := isInside)
  rcases rest : s.dropWhile isInside with _ | ⟨d, back⟩
  · rw [rest, List.append_nil] at whole
    rw [whole, occursIn_nil some, Bool.or_false]
  · have apart : d ∉ needle := by
      intro hd
      have ends := List.head?_dropWhile_not isInside s
      rw [rest] at ends
      simp [inside d hd] at ends
    rw [occursIn_cons_apart some apart, ← occursIn_append_cons some apart, ← rest, whole]

/-- An address mentions a host in its authority or around it. -/
theorem contains_iff {url host : String} (place : IsPlace host) :
    contains url host ↔ Hosted url host ∨ Aside url host := by
  have some : host.toList ≠ [] := by simpa using place.1
  have inside := List.all_eq_true.mp place.2
  have slash : '/' ∉ host.toList := fun h => absurd (inside _ h) (by decide)
  unfold Hosted Aside authority? around
  rcases cut : atSlashes url.toList with _ | ⟨front, back⟩
  · simp
  · obtain ⟨rest, rfl, whole⟩ := atSlashes_some cut
    have parts : occursIn host.toList url.toList = (occursIn host.toList front ||
        (occursIn host.toList (rest.takeWhile isInside) ||
          occursIn host.toList (rest.dropWhile isInside))) := by
      rw [whole, occursIn_append_cons some slash, occursIn_cons_apart some slash,
        ← occursIn_span some inside]
    have authority : authorityOf ('/' :: '/' :: rest) = rest.takeWhile isInside := rfl
    simp only [contains, parts, authority, Option.map_some, Option.mem_some_iff, exists_eq_left',
      String.toList_ofList, List.drop_succ_cons, List.drop_zero, List.mem_cons, List.not_mem_nil,
      or_false, exists_eq_or_imp, exists_eq_left, Bool.or_eq_true]
    exact or_left_comm

end Address

end Rehearsal
