import Rehearsal.Proofs.LoopCourse

/-!
# What the field holds when a loop gives up

A loop that gives up has found the field short of the reference in every attempt, or has not been
able to read it. But it looks at the field only where an attempt begins. What the actions of the
last attempt have brought about nobody looks at: the loop reports that the value is not there
even if they have just put it there.
-/

namespace Rehearsal.Target

open Play

variable {τ : Type} [Clock τ] {plan : LoopPlan τ} {l : Loop} {reference : String}
  {hook : Nat → Int → Play τ Unit} {page next n : Nat} {error : Option String} {x y : Round τ}
  {s t : Stage τ} {value : Option String}

/-- The value that the first field of an expression holds on a page. -/
def held (s : Stage τ) (page : Nat) (expression : String) : Option String :=
  ((((s.page? page).map (·.elements)).getD []).find?
    (·.matchesSelector (Selector.ofExpression expression))).bind (·.value)

/-- Numbers beside the items do not change which is the first that fits. -/
lemma head?_numbered {α : Type} (p : α → Bool) (items : List α) :
    ((items.mapIdx fun i a => (i, a)).filter fun x => p x.2).head?.map (·.2) = items.find? p := by
  have numbered : (items.mapIdx fun i a => (i, a)).map (·.2) = items := by
    refine List.ext_getElem (by simp) fun i h h' => ?_
    simp
  have found : items.find? p = ((items.mapIdx fun i a => (i, a)).map (·.2)).find? p := by
    rw [numbered]
  rw [found, List.find?_map, List.head?_filter]
  rfl

omit [Clock τ] in
lemma locate_first {id : Nat} {selector : String} {found : Nat × Element (Effect τ)}
    (h : Browser.locate id { selector, index := some 0 } none s = (.done found, t)) :
    t = s ∧ (((s.page? id).map (·.elements)).getD []).find? (·.matchesSelector selector) =
      some found.2 := by
  obtain ⟨all, u, located, h⟩ := done_of_bind h
  have same : u = s := (congrArg Prod.snd located).symm
  have first : (((((s.page? id).map (·.elements)).getD []).mapIdx fun i e => (i, e)).filter
      fun x => x.2.matchesSelector selector).take 1 = all :=
    Ending.done.inj (congrArg Prod.fst located)
  rw [← head?_numbered, ← same]
  rw [← same] at first
  rcases all with _ | ⟨e, rest⟩
  · cases h
  · cases h
    have head := congrArg List.head? first
    rw [List.head?_take, if_neg Nat.one_ne_zero] at head
    exact ⟨rfl, congrArg (Option.map (·.2)) head⟩

/-- What is read is what the page holds when it has been read. -/
lemma fieldValue_held {expression : String}
    (h : fieldValue page expression s = (.done value, t)) : value = held t page expression := by
  have valued {u : Stage τ} (h : Browser.valueOf page
      { selector := Selector.ofExpression expression, index := some 0 } u = (.done value, t)) :
      value = held t page expression := by
    obtain ⟨⟨⟩, v, -, h⟩ := done_of_bind h
    obtain ⟨found, w, located, h⟩ := done_of_bind h
    cases h
    obtain ⟨rfl, first⟩ := locate_first located
    rw [held, first]
    rfl
  obtain ⟨count, u, -, h⟩ := done_of_bind h
  dsimp only at h
  split at h
  · obtain ⟨⟨⟩, v, failed, -⟩ := done_of_bind h
    cases failed
  · exact valued h

/-- The attempt from one round to the next has missed, and the hook has been called. -/
lemma Rounds.last (rounds : Rounds plan l reference hook x (n + 1) y) :
    ∃ z, Rounds plan l reference hook x n z ∧ Rounds plan l reference hook z 1 y := by
  induction n generalizing x with
  | zero => exact ⟨x, .none x, rounds⟩
  | succ n ih =>
    cases rounds with
    | missed h called later =>
      obtain ⟨z, before, last⟩ := ih later
      exact ⟨z, .missed h called before, last⟩

/-- An attempt misses where the field cannot be read or is short of the reference. -/
lemma Missed.read (h : Missed plan l reference page s next error t) :
    (∃ f u, fieldValue page l.xpath s = (.failed f, u)) ∨ ∃ u, Short l reference page s u := by
  cases h with
  | worked h =>
    cases h with
    | worked short carried active => exact .inr ⟨_, short⟩
  | failed h hopeful active =>
    cases h with
    | unread read => exact .inl ⟨_, _, read⟩
    | stopped short stopped => exact .inr ⟨_, short⟩
    | pageless short carried lost => exact .inr ⟨_, short⟩

/-- Where a loop that has made so many attempts stands, it does not know what its page holds: it
has not made any attempt, or could not read the field in the last one, or has read something
else there. -/
inductive Unseen (plan : LoopPlan τ) (l : Loop) (reference : String)
    (hook : Nat → Int → Play τ Unit) (x : Round τ) (left : Nat) (y : Round τ) : Prop
  | untried (none : left = 0) : Unseen plan l reference hook x left y
  | unread {n : Nat} (counted : left = n + 1) {z : Round τ}
      (before : Rounds plan l reference hook x n z) (last : Rounds plan l reference hook z 1 y)
      {f : Failure} {t : Stage τ} (read : fieldValue z.page l.xpath z.stage = (.failed f, t)) :
      Unseen plan l reference hook x left y
  | changed {n : Nat} (counted : left = n + 1) {z : Round τ}
      (before : Rounds plan l reference hook x n z) (last : Rounds plan l reference hook z 1 y)
      {t : Stage τ} (short : Short l reference z.page z.stage t)
      (differs : held t z.page l.xpath ≠ held y.stage y.page l.xpath) :
      Unseen plan l reference hook x left y

/-- The page that the loop is on holds a value that has come to the reference, unseen. -/
structure Overlooked (plan : LoopPlan τ) (l : Loop) (reference : String)
    (hook : Nat → Int → Play τ Unit) (x : Round τ) (left : Nat) (y : Round τ) : Prop where
  there : reached (held y.stage y.page l.xpath) reference = true
  unseen : Unseen plan l reference hook x left y

lemma Rounds.short_iff {left : Nat} (rounds : Rounds plan l reference hook x left y) :
    reached (held y.stage y.page l.xpath) reference = false ↔
      ¬ Overlooked plan l reference hook x left y := by
  constructor
  · intro short overlooked
    exact Bool.false_ne_true (short.symm.trans overlooked.there)
  · intro noticed
    refine Bool.eq_false_iff.mpr fun there => noticed ⟨there, ?_⟩
    rcases left with _ | n
    · exact .untried rfl
    · obtain ⟨z, before, last⟩ := rounds.last
      cases id last with
      | missed h called later =>
        rcases h.read with ⟨f, t, read⟩ | ⟨t, value, read, short⟩
        · exact .unread rfl before last read
        · refine .changed rfl before last ⟨value, read, short⟩ fun same => ?_
          rw [fieldValue_held read, same, there] at short
          cases short

variable {settings : Settings} {selector : String} {attempts : Int} {lastError : Option String}

/-- When a loop has used up its attempts, the field on the page that it is on is absent, empty or
short of the reference, unless the loop has overlooked it. -/
theorem exceeded_short_iff {hook : Nat → Int → Play Float Unit} {s t : Stage Float}
    (calm : Calm (.ofSettings settings) l reference hook ⟨1, page, none, s⟩
      (attemptBound l settings).toNat)
    (h : loopUntil (.ofSettings settings) l reference (attemptBound l settings) hook page s =
      (.failed (.engine (.loopExceeded selector attempts lastError)), t)) :
    ∃ y, Rounds (.ofSettings settings) l reference hook ⟨1, page, none, s⟩
        (attemptBound l settings).toNat y ∧ y.stage = t ∧ y.lastError = lastError ∧
      (reached (held t y.page l.xpath) reference = false ↔
        ¬ Overlooked (.ofSettings settings) l reference hook ⟨1, page, none, s⟩
          (attemptBound l settings).toNat y) := by
  obtain ⟨e, u, h', looped⟩ := loopFrom_looped (attemptBound l settings) ⟨1, page, none, s⟩
    (attemptBound l settings).toNat calm
  cases h'.symm.trans h
  cases looped with
  | exceeded rounds => exact ⟨_, rounds, rfl, rfl, rounds.short_iff⟩

/-- The loop with one attempt only. -/
def redatingOnce : Loop := { redating with maxAttempts := some 1 }

/-- How a loop with one attempt gives up, and the date that the page then holds. -/
def givingUp (reference : String) : Option (String × Int × Option String) × Option String :=
  let (e, t) := loopUntil (.ofSettings Settings.standard) redatingOnce reference
    (attemptBound redatingOnce Settings.standard) (fun _ _ => pure ()) 0 dated
  match e with
  | .failed (.engine (.loopExceeded selector attempts lastError)) =>
    (some (selector, attempts, lastError), held t 0 "//input")
  | _ => (none, none)

/-- A date that is never entered has not been overlooked. -/
theorem exceeded_short_iff_redating : ∃ t : Stage Float,
    (hookCalls (.ofSettings Settings.standard) redatingOnce "2026-05-01" (fun _ _ => pure ()) 1 0
      (attemptBound redatingOnce Settings.standard).toNat dated).map (·.attempt) = [1] ∧
    Calm (.ofSettings Settings.standard) redatingOnce "2026-05-01" (fun _ _ => pure ())
      ⟨1, 0, none, dated⟩ (attemptBound redatingOnce Settings.standard).toNat ∧
    loopUntil (.ofSettings Settings.standard) redatingOnce "2026-05-01"
      (attemptBound redatingOnce Settings.standard) (fun _ _ => pure ()) 0 dated =
        (.failed (.engine (.loopExceeded "//input" 1 none)), t) ∧
    ∃ y, Rounds (.ofSettings Settings.standard) redatingOnce "2026-05-01" (fun _ _ => pure ())
        ⟨1, 0, none, dated⟩ (attemptBound redatingOnce Settings.standard).toNat y ∧
      y.stage = t ∧ y.lastError = none ∧
      (reached (held t y.page "//input") "2026-05-01" = false ↔
        ¬ Overlooked (.ofSettings Settings.standard) redatingOnce "2026-05-01"
          (fun _ _ => pure ()) ⟨1, 0, none, dated⟩
          (attemptBound redatingOnce Settings.standard).toNat y) := by
  have called : (hookCalls (.ofSettings Settings.standard) redatingOnce "2026-05-01"
      (fun _ _ => pure ()) 1 0 (attemptBound redatingOnce Settings.standard).toNat dated).map
        (·.attempt) = [1] := by decide +kernel
  have calm : Calm (.ofSettings Settings.standard) redatingOnce "2026-05-01" (fun _ _ => pure ())
      ⟨1, 0, none, dated⟩ (attemptBound redatingOnce Settings.standard).toNat := fun _ _ => rfl
  have ending : (givingUp "2026-05-01").1 = some ("//input", 1, none) := by decide +kernel
  unfold givingUp at ending
  rcases h : loopUntil (.ofSettings Settings.standard) redatingOnce "2026-05-01"
    (attemptBound redatingOnce Settings.standard) (fun _ _ => pure ()) 0 dated with ⟨e, t⟩
  rw [h] at ending
  dsimp only at ending
  split at ending
  · cases ending
    exact ⟨t, called, calm, rfl, exceeded_short_iff calm h⟩
  · cases ending

/-- The only attempt enters a date past the reference, and the loop says that it has not been
met. -/
theorem exceeded_though_held : ∃ t : Stage Float,
    loopUntil (.ofSettings Settings.standard) redatingOnce "2024-05-01"
      (attemptBound redatingOnce Settings.standard) (fun _ _ => pure ()) 0 dated =
        (.failed (.engine (.loopExceeded "//input" 1 none)), t) ∧
    held t 0 "//input" = some "2025-01-01" ∧
    reached (held t 0 "//input") "2024-05-01" = true := by
  have ending : givingUp "2024-05-01" =
      (some ("//input", 1, none), some "2025-01-01") := by decide +kernel
  unfold givingUp at ending
  rcases h : loopUntil (.ofSettings Settings.standard) redatingOnce "2024-05-01"
    (attemptBound redatingOnce Settings.standard) (fun _ _ => pure ()) 0 dated with ⟨e, t⟩
  rw [h] at ending
  dsimp only at ending
  split at ending
  · obtain ⟨gaveUp, value⟩ := Prod.mk.inj ending
    cases gaveUp
    refine ⟨t, rfl, value, ?_⟩
    rw [value]
    decide +kernel
  · cases ending

end Rehearsal.Target
