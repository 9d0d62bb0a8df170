import Mathlib.Tactic.Lemma
import Rehearsal.Popup

/-!
# What a search for popups sees

The signals are put in terms of what the session shows: open pages, pages announced since
the baseline, the number of open pages, frames. Each has its own conditions on a page, and
of the pages that meet them the newest counts.
-/

namespace Rehearsal.Popup

open Play

variable {τ : Type}

/-- The last of a list that fits, and so the newest where the list goes by creation. -/
def Newest (fits : Nat → Prop) (ids : List Nat) (id : Nat) : Prop :=
  ∃ before after, ids = before ++ id :: after ∧ fits id ∧ ∀ b ∈ after, ¬ fits b

/-- The address mentions a domain that is not empty. -/
def Mentions (domains : List String) (url : Value) : Prop :=
  ∃ d ∈ domains, d ≠ "" ∧ Address.mentions url d = .ok true

section Conditions

variable (w : Wanted) (s : Stage τ)

/-- Another page on a wanted domain. -/
def Matching (id : Nat) : Prop := id ≠ w.current ∧ Mentions w.domains (s.url id)

/-- Another page that is neither closed nor blank. -/
def InUse (id : Nat) : Prop := id ≠ w.current ∧ s.isClosed id = false ∧ s.isBlank id = false

/-- Another page that is not blank and on a wanted domain, if any domain is wanted. -/
def Fitting (id : Nat) : Prop :=
  id ≠ w.current ∧ s.isBlank id = false ∧ (w.domains = [] ∨ Mentions w.domains (s.url id))

/-- The addresses of the frames of a page. -/
def framesOf (id : Nat) : List Value := ((s.page? id).map (·.frames)).getD []

/-- Some domain is wanted, and the current page is open and shows one. -/
def Inside : Prop :=
  w.domains ≠ [] ∧ s.isClosed w.current = false ∧
    ∃ url ∈ s.url w.current :: framesOf s w.current, Mentions w.domains url

/-- A poll sees this page: the newest announced one that is in use, or else, with more open
pages than at the baseline, the newest open one that fits. -/
inductive Signalled : Nat → Prop
  | announced (id : Nat)
      (newest : Newest (InUse w s) (s.watch.createdSince w.baseline.created) id) : Signalled id
  | risen (id : Nat) (unannounced : ∀ b ∈ s.watch.createdSince w.baseline.created, ¬ InUse w s b)
      (more : w.baseline.pageCount < s.pageCount)
      (newest : Newest (Fitting w s) s.openPages id) : Signalled id

/-- A poll sees no page. -/
structure Unsignalled : Prop where
  unannounced : ∀ b ∈ s.watch.createdSince w.baseline.created, ¬ InUse w s b
  unrisen : w.baseline.pageCount < s.pageCount → ∀ b ∈ s.openPages, ¬ Fitting w s b

/-- An address that the search may look at is no text and cannot be asked. -/
def Unanswered (f : Failure) : Prop :=
  ∃ url ∈ s.openPages.map s.url ++ s.url w.current :: framesOf s w.current,
    Address.Unsearchable url f

end Conditions

section Newest

variable {ids : List Nat} {id : Nat} {fits : Nat → Prop}

lemma Newest.mem (h : Newest fits ids id) : id ∈ ids := by
  obtain ⟨before, after, rfl, -, -⟩ := h
  simp

/-- What is found first from behind is the newest. -/
lemma newest_of_find? {p : Nat → Bool} (h : ids.reverse.find? p = some id) :
    Newest (fun b => p b = true) ids id := by
  obtain ⟨holds, before, after, split, misses⟩ := List.find?_eq_some_iff_append.mp h
  have ids_eq := congrArg List.reverse split
  rw [List.reverse_reverse, List.reverse_append, List.reverse_cons, List.append_assoc] at ids_eq
  refine ⟨after.reverse, before.reverse, ids_eq, holds, ?_⟩
  intro b hb hp
  have miss := misses b (List.mem_reverse.mp hb)
  rw [hp] at miss
  cases miss

variable {keep : Nat → Bool} {test : Nat → Except Failure Bool}
  (dropped : ∀ b, keep b = false → ¬ fits b) (missed : ∀ b, test b = .ok false → ¬ fits b)

include dropped missed

lemma newest_of_findFirst (hit : ∀ b, keep b = true → test b = .ok true → fits b)
    (h : Failure.findFirst test (ids.reverse.filter keep) = .ok (some id)) :
    Newest fits ids id := by
  obtain ⟨before, after, kept, misses, holds⟩ := Failure.findFirst_some h
  obtain ⟨l, m, split, hl, hm⟩ := List.filter_eq_append_iff.mp kept
  obtain ⟨skipped, rest, rfl, unkept, hid, -⟩ := List.filter_eq_cons_iff.mp hm
  have ids_eq : ids = rest.reverse ++ id :: (l ++ skipped).reverse := by
    rw [← List.reverse_reverse ids, split]
    simp
  refine ⟨rest.reverse, (l ++ skipped).reverse, ids_eq, hit id hid holds, ?_⟩
  intro b hb
  rcases List.mem_append.mp (List.mem_reverse.mp hb) with hb | hb
  · -- Pages after it have been tested before it, unless they do not come into question.
    cases hk : keep b with
    | true =>
      have tested : b ∈ before := hl ▸ List.mem_filter.mpr ⟨hb, hk⟩
      exact missed b (misses b tested)
    | false => exact dropped b hk
  · exact dropped b (Bool.eq_false_iff.mpr (unkept b hb))

lemma none_of_findFirst (h : Failure.findFirst test (ids.reverse.filter keep) = .ok none) :
    ∀ b ∈ ids, ¬ fits b := by
  intro b hb
  cases hk : keep b with
  | true =>
    have tested : b ∈ ids.reverse.filter keep :=
      List.mem_filter.mpr ⟨List.mem_reverse.mpr hb, hk⟩
    exact missed b (Failure.findFirst_none h b tested)
  | false => exact dropped b hk

end Newest

section Signals

variable {w : Wanted} {s : Stage τ} {id : Nat} {f : Failure} {url : Value}

lemma openPages_open (h : id ∈ s.openPages) : s.isClosed id = false := by
  have shown := (List.mem_filter.mp h).2
  simpa using shown

/-- A poll sees open pages only. -/
lemma Signalled.shown (h : Signalled w s id) : s.isClosed id = false := by
  cases h with
  | announced newest =>
    obtain ⟨before, after, -, inUse, -⟩ := newest
    exact inUse.2.1
  | risen unannounced more newest => exact openPages_open newest.mem

lemma onDomain_true (h : onDomain w.domains url = .ok true) : Mentions w.domains url := by
  obtain ⟨d, hd, mentioned⟩ := Failure.anyOf_true h
  obtain ⟨wanted, nonempty⟩ := List.mem_filter.mp hd
  exact ⟨d, wanted, of_decide_eq_true nonempty, mentioned⟩

lemma onDomain_false (h : onDomain w.domains url = .ok false) : ¬ Mentions w.domains url := by
  rintro ⟨d, wanted, nonempty, mentioned⟩
  have miss := Failure.anyOf_false h d (List.mem_filter.mpr ⟨wanted, decide_eq_true nonempty⟩)
  cases miss.symm.trans mentioned

lemma unanswered_of_findFirst {test : Nat → Except Failure Bool} {keep : Nat → Bool}
    (asked : ∀ b, test b = .error f → Address.Unsearchable (s.url b) f)
    (h : Failure.findFirst test (s.openPages.reverse.filter keep) = .error f) :
    Unanswered w s f := by
  obtain ⟨b, hb, failed⟩ := Failure.findFirst_error h
  have shown : b ∈ s.openPages := List.mem_reverse.mp (List.mem_filter.mp hb).1
  exact ⟨s.url b, List.mem_append_left _ (List.mem_map_of_mem shown), asked b failed⟩

/-- Pages on a wanted domain are looked for only where there is one. -/
lemma existing_cases (w : Wanted) (s : Stage τ) :
    (∃ id, existing s w = .ok (some id) ∧ Newest (Matching w s) s.openPages id) ∨
    (existing s w = .ok none ∧ ∀ b ∈ s.openPages, ¬ Matching w s b) ∨
    ∃ f, existing s w = .error f ∧ Unanswered w s f := by
  have dropped : ∀ b, decide (b ≠ w.current) = false → ¬ Matching w s b := by
    intro b current match_
    exact of_decide_eq_false current match_.1
  have missed : ∀ b, onDomain w.domains (s.url b) = .ok false → ¬ Matching w s b := by
    intro b off match_
    exact onDomain_false off match_.2
  by_cases any : w.domains.isEmpty
  · refine .inr (.inl ⟨if_pos any, ?_⟩)
    rintro b - ⟨-, d, wanted, -⟩
    rw [List.isEmpty_iff.mp any] at wanted
    cases wanted
  · have looked : existing s w = Failure.findFirst (fun b => onDomain w.domains (s.url b))
        (s.openPages.reverse.filter (· ≠ w.current)) := if_neg any
    rw [looked]
    rcases h : Failure.findFirst (fun b => onDomain w.domains (s.url b))
        (s.openPages.reverse.filter (· ≠ w.current)) with f | _ | id
    · exact .inr (.inr ⟨f, rfl, unanswered_of_findFirst (fun b => Address.mentionsAny_error) h⟩)
    · exact .inr (.inl ⟨rfl, none_of_findFirst dropped missed h⟩)
    · refine .inl ⟨id, rfl, newest_of_findFirst dropped missed ?_ h⟩
      intro b other on
      exact ⟨of_decide_eq_true other, onDomain_true on⟩

lemma announced_cases (w : Wanted) (s : Stage τ) :
    (∃ id, announced s w = some id ∧
      Newest (InUse w s) (s.watch.createdSince w.baseline.created) id) ∨
    (announced s w = none ∧ ∀ b ∈ s.watch.createdSince w.baseline.created, ¬ InUse w s b) := by
  have used (b : Nat) : (decide (b ≠ w.current) && !s.isClosed b && !s.isBlank b) = true ↔
      InUse w s b := by
    simp [InUse, and_assoc]
  rcases h : announced s w with _ | id
  · refine .inr ⟨rfl, fun b hb inUse => ?_⟩
    have unused := List.find?_eq_none.mp h b (List.mem_reverse.mpr hb)
    exact unused ((used b).mpr inUse)
  · obtain ⟨before, after, split, holds, misses⟩ := newest_of_find? h
    refine .inl ⟨id, rfl, before, after, split, (used id).mp holds, ?_⟩
    intro b hb inUse
    exact misses b hb ((used b).mpr inUse)

lemma risen_cases (w : Wanted) (s : Stage τ) :
    (∃ id, risen s w = .ok (some id) ∧ w.baseline.pageCount < s.pageCount ∧
      Newest (Fitting w s) s.openPages id) ∨
    (risen s w = .ok none ∧
      (w.baseline.pageCount < s.pageCount → ∀ b ∈ s.openPages, ¬ Fitting w s b)) ∨
    ∃ f, risen s w = .error f ∧ Unanswered w s f := by
  let test (b : Nat) : Except Failure Bool :=
    if w.domains.isEmpty then .ok true else onDomain w.domains (s.url b)
  let keep (b : Nat) : Bool := decide (b ≠ w.current) && !s.isBlank b
  have dropped : ∀ b, keep b = false → ¬ Fitting w s b := by
    rintro b unkept ⟨other, shown, -⟩
    simp [keep, other, shown] at unkept
  have missed : ∀ b, test b = .ok false → ¬ Fitting w s b := by
    rintro b off ⟨-, -, on⟩
    by_cases any : w.domains.isEmpty
    · simp [test, any] at off
    · rw [show test b = onDomain w.domains (s.url b) from if_neg any] at off
      rcases on with none | on
      · exact any (List.isEmpty_iff.mpr none)
      · exact onDomain_false off on
  by_cases more : (s.pageCount : Int) ≤ w.baseline.pageCount
  · exact .inr (.inl ⟨if_pos more, fun less => absurd less (Int.not_lt.mpr more)⟩)
  · have looked : risen s w = Failure.findFirst test (s.openPages.reverse.filter keep) :=
      if_neg more
    rw [looked]
    rcases h : Failure.findFirst test (s.openPages.reverse.filter keep) with f | _ | id
    · refine .inr (.inr ⟨f, rfl, unanswered_of_findFirst ?_ h⟩)
      intro b failed
      by_cases any : w.domains.isEmpty
      · simp [test, any] at failed
      · exact Address.mentionsAny_error ((if_neg any).symm.trans failed)
    · exact .inr (.inl ⟨rfl, fun _ => none_of_findFirst dropped missed h⟩)
    · refine .inl ⟨id, rfl, Int.not_le.mp more, newest_of_findFirst dropped missed ?_ h⟩
      intro b kept on
      have other : b ≠ w.current ∧ s.isBlank b = false := by simpa [keep] using kept
      refine ⟨other.1, other.2, ?_⟩
      by_cases any : w.domains.isEmpty
      · exact .inl (List.isEmpty_iff.mp any)
      · exact .inr (onDomain_true ((if_neg any).symm.trans on))

/-- What a poll sees. -/
lemma signal_cases (w : Wanted) (s : Stage τ) :
    (∃ id, signal s w = .ok (some id) ∧ Signalled w s id) ∨
    (signal s w = .ok none ∧ Unsignalled w s) ∨
    ∃ f, signal s w = .error f ∧ Unanswered w s f := by
  unfold signal
  rcases announced_cases w s with ⟨id, seen, newest⟩ | ⟨unseen, unannounced⟩
  · rw [seen]
    exact .inl ⟨id, rfl, .announced id newest⟩
  · rw [unseen]
    rcases risen_cases w s with ⟨id, seen, more, newest⟩ | ⟨unseen, unrisen⟩ | ⟨f, failed, asked⟩
    · exact .inl ⟨id, seen, .risen id unannounced more newest⟩
    · exact .inr (.inl ⟨unseen, unannounced, unrisen⟩)
    · exact .inr (.inr ⟨f, failed, asked⟩)

lemma inCurrent_cases (w : Wanted) (s : Stage τ) :
    (inCurrent s w = .ok true ∧ Inside w s) ∨ (inCurrent s w = .ok false ∧ ¬ Inside w s) ∨
    ∃ f, inCurrent s w = .error f ∧ Unanswered w s f := by
  by_cases skipped : (w.domains.isEmpty || s.isClosed w.current) = true
  · refine .inr (.inl ⟨if_pos skipped, ?_⟩)
    rintro ⟨some, open_, -⟩
    rcases (Bool.or_eq_true _ _).mp skipped with any | closed
    · exact some (List.isEmpty_iff.mp any)
    · cases closed.symm.trans open_
  · have looked : inCurrent s w =
        Failure.anyOf (onDomain w.domains) (s.url w.current :: framesOf s w.current) :=
      if_neg skipped
    have usable : w.domains ≠ [] ∧ s.isClosed w.current = false := by
      simpa using skipped
    rw [looked]
    rcases h : Failure.anyOf (onDomain w.domains) (s.url w.current :: framesOf s w.current) with
      f | _ | _
    · obtain ⟨url, shown, failed⟩ := Failure.anyOf_error h
      exact .inr (.inr ⟨f, rfl, url, List.mem_append_right _ shown,
        Address.mentionsAny_error failed⟩)
    · refine .inr (.inl ⟨rfl, ?_⟩)
      rintro ⟨-, -, url, shown, on⟩
      exact onDomain_false (Failure.anyOf_false h url shown) on
    · obtain ⟨url, shown, on⟩ := Failure.anyOf_true h
      exact .inl ⟨rfl, usable.1, usable.2, url, shown, onDomain_true on⟩

lemma anyOther_cases (w : Wanted) (s : Stage τ) :
    (∃ id, anyOther s w = some id ∧ Newest (· ≠ w.current) s.openPages id) ∨
    (anyOther s w = none ∧ ∀ b ∈ s.openPages, b = w.current) := by
  rcases h : anyOther s w with _ | id
  · refine .inr ⟨rfl, fun b hb => Decidable.byContradiction fun other => ?_⟩
    have kept : b ∈ s.openPages.filter (· ≠ w.current) :=
      List.mem_filter.mpr ⟨hb, decide_eq_true other⟩
    rw [List.getLast?_eq_none_iff.mp h] at kept
    cases kept
  · obtain ⟨before, kept⟩ := List.getLast?_eq_some_iff.mp h
    obtain ⟨l, m, split, -, hm⟩ := List.filter_eq_append_iff.mp kept
    obtain ⟨skipped, rest, rfl, -, hid, last⟩ := List.filter_eq_cons_iff.mp hm
    refine .inl ⟨id, rfl, l ++ skipped, rest, ?_, of_decide_eq_true hid, ?_⟩
    · rw [split, List.append_assoc]
    · intro b hb other
      have kept : b ∈ rest.filter (· ≠ w.current) :=
        List.mem_filter.mpr ⟨hb, decide_eq_true other⟩
      rw [last] at kept
      cases kept

end Signals

end Rehearsal.Popup
