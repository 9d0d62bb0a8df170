import Mathlib.Logic.Function.Iterate
import Rehearsal.Browser.Stability
import Rehearsal.Proofs.Exchanges

/-!
# Reading the markup of a page in transit

A reading that fails because the page is on its way elsewhere is made again, after a pause and a
wait for the document, as long as readings are left. The first reading that does not fail so, or
else the last one, ends the retrieval the way it ends itself.
-/

namespace Rehearsal

open Play

lemma Text.occursIn_iff {needle s : List Char} : occursIn needle s = true ↔ needle <:+: s := by
  induction s with
  | nil => rw [occursIn, List.isEmpty_iff, List.infix_nil]
  | cons c s ih =>
    rw [occursIn, Bool.or_eq_true, ih, List.isPrefixOf_iff_prefix, List.infix_cons_iff]

/-- What a failure says of a page on its way, in small letters. -/
def transitWords : List String := ["navigating and changing", "page is navigating"]

/-- Somewhere in its message the failure says so, in letters of either case. -/
def Failure.InTransit (f : Failure) : Prop :=
  ∃ words ∈ transitWords, ∃ before said after,
    f.message.toList = before ++ said ++ after ∧ said.map Text.lowerChar = words.toList

namespace Browser

lemma contains_lower {message words : String} :
    Text.contains (Text.lower message) words = true ↔ ∃ before said after,
      message.toList = before ++ said ++ after ∧ said.map Text.lowerChar = words.toList := by
  rw [Text.contains, Text.lower, String.toList_ofList, Text.occursIn_iff]
  constructor
  · rintro ⟨before, after, split⟩
    obtain ⟨front, rest, cut, fronts, -⟩ := List.map_eq_append_iff.mp split.symm
    obtain ⟨start, said, cut', -, same⟩ := List.map_eq_append_iff.mp fronts
    exact ⟨start, said, rest, by rw [cut, cut'], same⟩
  · rintro ⟨before, said, after, split, same⟩
    refine ⟨before.map Text.lowerChar, after.map Text.lowerChar, ?_⟩
    rw [split, List.map_append, List.map_append, same]

lemma navigating_iff (f : Failure) : navigating f.message = true ↔ f.InTransit := by
  unfold navigating Failure.InTransit transitWords
  rw [Bool.or_eq_true, contains_lower, contains_lower]
  simp only [List.mem_cons, List.not_mem_nil, or_false, exists_eq_or_imp, exists_eq_left]

section Readings

variable {τ : Type} [Clock τ] (id : Nat) (delay : τ) (s : Stage τ)

/-- The stage for another reading: after this one, a pause, and a wait for the document, whatever
comes of it. -/
def again : Stage τ :=
  (waitForLoadState id "domcontentloaded" 5000 ((content id s).2.sleep delay)).2

/-- What is called before another reading. -/
def againCalls : List (Call τ) :=
  [.page id .content, .sleep delay, .page id (.waitForLoadState "domcontentloaded" 5000)]

/-- The stage on which the reading with this number is made. -/
def reading (k : Nat) : Stage τ := (again id delay)^[k] s

lemma content_called :
    (content id s).2.calls = s.calls ++ [.page id .content] ∧ (content id s).1 ≠ .endless :=
  enter_calls id rfl _ (.look _) s

lemma waited_called (state : String) (timeout : Int) :
    (waitForLoadState id state timeout s).2.calls =
        s.calls ++ [.page id (.waitForLoadState state timeout)] ∧
      (waitForLoadState id state timeout s).1 ≠ .endless := by
  obtain ⟨quiet, ends⟩ := enter_quiet id (.page id (.waitForLoadState state timeout)) _ s
  exact ⟨quiet.calls.trans (s.note_calls rfl), ends⟩

lemma again_calls : (again id delay s).calls = s.calls ++ againCalls id delay := by
  rw [again, (waited_called id _ _ _).1, Stage.sleep_calls, (content_called id s).1,
    List.append_assoc, List.append_assoc]
  rfl

/-- What the reading with this number says, when so many are allowed. -/
inductive Verdict (allowed k : Nat) : Ending String → Prop
  | read (html : String) : Verdict allowed k (.done html)
  | refused (f : Failure) (other : ¬ f.InTransit) : Verdict allowed k (.failed f)
  | exhausted (f : Failure) (transit : f.InTransit) (last : k + 1 = allowed) :
      Verdict allowed k (.failed f)

/-- A retrieval that ends with the reading of this number, the first that was not put aside. -/
structure Retrieved (allowed k : Nat) (e : Ending String) (t : Stage τ) : Prop where
  within : k < allowed
  before : ∀ j < k, ∃ f, (content id (reading id delay s j)).1 = .failed f ∧ f.InTransit
  read : content id (reading id delay s k) = (e, t)
  verdict : Verdict allowed k e
  calls : t.calls =
    s.calls ++ ((List.replicate k (againCalls id delay)).flatten ++ [.page id .content])

variable {id delay s} {allowed k : Nat} {f : Failure} {e : Ending String} {t : Stage τ}

/-- A retrieval that ends with its first reading. -/
lemma Retrieved.now (read : content id s = (e, t)) (verdict : Verdict (allowed + 1) 0 e) :
    Retrieved id delay s (allowed + 1) 0 e t := by
  refine ⟨Nat.succ_pos allowed, nofun, read, verdict, ?_⟩
  have called := (content_called id s).1
  rw [read] at called
  exact called

/-- A reading that is put aside, and a retrieval after it. -/
lemma Retrieved.later (failed : (content id s).1 = .failed f) (transit : f.InTransit)
    (h : Retrieved id delay (again id delay s) allowed k e t) :
    Retrieved id delay s (allowed + 1) (k + 1) e t := by
  refine ⟨Nat.succ_lt_succ h.within, ?_, h.read, ?_, ?_⟩
  · intro j hj
    cases j with
    | zero => exact ⟨f, failed, transit⟩
    | succ j => exact h.before j (Nat.lt_of_succ_lt_succ hj)
  · cases h.verdict with
    | read html => exact .read html
    | refused f other => exact .refused f other
    | exhausted f transit last => exact .exhausted f transit (congrArg Nat.succ last)
  · rw [h.calls, again_calls, List.replicate_succ, List.flatten_cons]
    simp only [List.append_assoc]

/-- A reading that fails otherwise, or with none after it, is the retrieval. -/
lemma contentRetrying_refused (read : content id s = (.failed f, t)) (other : ¬ f.InTransit) :
    contentRetrying id delay allowed s = (.failed f, t) := by
  cases allowed with
  | zero => exact read
  | succ allowed =>
    refine (bind_done (attempt_failed read)).trans ?_
    dsimp only
    rw [if_neg ((navigating_iff f).not.mpr other)]
    rfl

lemma contentRetrying_read {html : String} (read : content id s = (.done html, t)) :
    contentRetrying id delay allowed s = (.done html, t) := by
  cases allowed with
  | zero => exact read
  | succ allowed => exact bind_done (attempt_done read)

lemma contentRetrying_again (read : content id s = (.failed f, t)) (transit : f.InTransit) :
    contentRetrying id delay (allowed + 1) s =
      contentRetrying id delay allowed (again id delay s) := by
  have slept : again id delay s =
      (waitForLoadState id "domcontentloaded" 5000 (t.sleep delay)).2 := by rw [again, read]
  obtain ⟨worked, waited⟩ :=
    succeeds_run (waited_called id (t.sleep delay) "domcontentloaded" 5000).2
  refine (bind_done (attempt_failed read)).trans ?_
  dsimp only
  rw [if_pos ((navigating_iff f).mpr transit), slept]
  exact (bind_done rfl).trans (bind_done waited)

/-- The last reading allowed is never put aside. -/
lemma verdict_last (k : Nat) : Verdict (k + 1) k (content id s).1 := by
  rcases ending : (content id s).1 with html | f | _
  · exact .read html
  · by_cases transit : f.InTransit
    · exact .exhausted f transit rfl
    · exact .refused f transit
  · exact absurd ending (content_called id s).2

/-- With one reading, and so many more, a retrieval comes to its end. -/
lemma contentRetrying_retrieved (allowed : Nat) (s : Stage τ) : ∃ k e t,
    contentRetrying id delay allowed s = (e, t) ∧ Retrieved id delay s (allowed + 1) k e t := by
  induction allowed generalizing s with
  | zero => exact ⟨0, _, _, rfl, .now rfl (verdict_last 0)⟩
  | succ allowed ih =>
    rcases read : content id s with ⟨html | f | _, t⟩
    · exact ⟨0, _, t, contentRetrying_read read, .now read (.read html)⟩
    · by_cases transit : f.InTransit
      · obtain ⟨k, e, u, rest, retrieved⟩ := ih (again id delay s)
        refine ⟨k + 1, e, u, (contentRetrying_again read transit).trans rest, ?_⟩
        exact .later (congrArg Prod.fst read) transit retrieved
      · exact ⟨0, _, t, contentRetrying_refused read transit, .now read (.refused f transit)⟩
    · exact absurd (congrArg Prod.fst read) (content_called id s).2

end Readings

/-- Where a reading is allowed, a retrieval ends with the first reading that does not fail because
the page is in transit, or with the last one allowed; before each other one there are one pause
and one wait. So it never makes up markup of its own. -/
theorem safeMarkup_retrieved (id : Nat) {attempts : Int} (some : 1 ≤ attempts) (delayMs : Float)
    (s : Stage Float) : ∃ k e t, safeMarkup id attempts delayMs s = (e, t) ∧
      Retrieved id (delayMs / 1000) s attempts.toNat k e t := by
  obtain ⟨more, enough⟩ : ∃ more, attempts.toNat = more + 1 :=
    ⟨attempts.toNat - 1, by omega⟩
  unfold safeMarkup safeContent
  rw [enough]
  exact contentRetrying_retrieved more s

/-- A page in transit when its markup is first read. -/
def underway : Stage Float :=
  { now := 0
    pages := [{ html := "<p>here</p>", script := [("content",
      [[.raise "Page is NAVIGATING" false], []])] }] }

/-- The second reading is the retrieval. -/
theorem safeMarkup_retrieved_second : (1 : Int) ≤ 3 ∧ ∃ t,
    safeMarkup 0 3 500 underway = (.done "<p>here</p>", t) ∧
    t.calls = [.page 0 .content, .sleep (500 / 1000),
      .page 0 (.waitForLoadState "domcontentloaded" 5000), .page 0 .content] := by
  have some_attempts : (1 : Int) ≤ 3 := by decide
  refine ⟨some_attempts, ?_⟩
  obtain ⟨k, e, t, ran, retrieved⟩ := safeMarkup_retrieved 0 some_attempts 500 underway
  have found : (safeMarkup 0 3 500 underway).1.value? = some "<p>here</p>" := by decide +kernel
  have missed : (content 0 underway).1.value? = none := by decide +kernel
  have second : (content 0 (reading 0 (500 / 1000) underway 1)).1.value? =
      some "<p>here</p>" := by decide +kernel
  rw [ran] at found
  rcases k with _ | _ | k
  · rw [show content 0 underway = (e, t) from retrieved.read] at missed
    cases found.symm.trans missed
  · rcases e with html | f | _
    · obtain rfl := Option.some.inj found
      exact ⟨t, ran, retrieved.calls⟩
    · cases found
    · cases found
  · obtain ⟨f, failed, -⟩ := retrieved.before 1 (by omega)
    rw [failed] at second
    cases second

end Browser
end Rehearsal
