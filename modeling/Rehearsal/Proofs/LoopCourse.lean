import Rehearsal.Proofs.LoopCalls
import Rehearsal.Proofs.PopupPriority
import Rehearsal.Proofs.Raises

/-!
# The course of a loop

A loop makes its attempts one after another. Each reads the field first and, if the value has not
come to the reference, carries out the actions in order, up to the first that raises something.
An attempt that misses leaves a page to go on with, and the hook is called. The loop ends in one
of three ways: the value is there, the attempts are used up, or no page is open any more.
-/

namespace Rehearsal

open Play

variable {τ : Type} [Clock τ]

/-- The page is closed, and no other is open. -/
structure Stage.Pageless (t : Stage τ) (page : Nat) : Prop where
  closed : t.isClosed page = true
  none : t.openPages = []

omit [Clock τ] in
lemma Session.ensureActive_open {limit : Int} {page : Nat} {s : Stage τ}
    (shown : s.isClosed page = false) : ensureActive limit page s = (.done page, s) := by
  rw [ensureActive, shown]
  rfl

omit [Clock τ] in
lemma Session.ensureActive_pageless {limit : Int} {page : Nat} {s : Stage τ}
    (h : s.Pageless page) : ensureActive limit page s = (.failed Popup.noPage, s) := by
  rw [ensureActive, h.closed, h.none]
  rfl

omit [Clock τ] in
/-- There is a page to go on with unless none is open. -/
lemma Session.ensureActive_cases (limit : Int) (page : Nat) (s : Stage τ) :
    (∃ next t, ensureActive limit page s = (.done next, t)) ∨ s.Pageless page := by
  cases closed : s.isClosed page with
  | false => exact .inl ⟨page, s, ensureActive_open closed⟩
  | true =>
    rcases last : s.openPages.getLast? with _ | other
    · exact .inr ⟨closed, List.getLast?_eq_none_iff.mp last⟩
    · refine .inl ⟨other, s.configureTimeouts other limit, ?_⟩
      rw [ensureActive, closed, last]
      rfl

omit [Clock τ] in
lemma Session.ensureActive_failed {limit : Int} {page : Nat} {s t : Stage τ} {f : Failure}
    (h : ensureActive limit page s = (.failed f, t)) : f = Popup.noPage ∧ t.Pageless page := by
  rcases ensureActive_cases limit page s with ⟨next, u, done⟩ | pageless
  · cases done.symm.trans h
  · cases (ensureActive_pageless pageless).symm.trans h
    exact ⟨rfl, pageless⟩

namespace Target

lemma reached_some_iff {value reference : String} :
    reached (some value) reference = true ↔ value ≠ "" ∧ reference ≤ value := by
  simp [reached]

section Raising

/-- Failures after which a loop goes on. -/
abbrev Hopeful (f : Failure) : Prop := isHopeless f = false

lemma fieldValue_raises (page : Nat) (expression : String) :
    Raises Hopeful (fieldValue page expression : Play τ (Option String)) := by
  have driven (d : DriverFailure) : Hopeful (.driver d) := rfl
  refine .bind (Browser.count_raises driven page _) fun n => ?_
  dsimp only
  split
  · exact .bind (.fail rfl) fun _ => Browser.valueOf_raises driven page _
  · exact Browser.valueOf_raises driven page _

lemma waiting_raises {P : Failure → Prop} (driven : ∀ d, P (.driver d)) (page : Nat)
    (seconds : Float) : Raises P (Play.orElse
      (Browser.waitForTimeout page (seconds * 1000) : Play τ Unit) fun f => do
        if !(← Play.look (·.isClosed page)) then Play.fail f) := by
  refine .orElse (Browser.enter_raises driven page _ _) fun f raised => ?_
  refine .bind (.look _) fun closed => ?_
  split
  · exact .fail raised
  · exact .pure ()

lemma wait_raises (page : Nat) (seconds : Float) :
    Raises Hopeful (wait page seconds : Play τ Unit) := by
  have waited := waiting_raises (τ := τ) (P := Hopeful) (fun _ => rfl) page seconds
  refine .bind (.look _) fun closed => ?_
  dsimp only
  split
  · exact .bind (.fail rfl) fun _ => waited
  · exact waited

end Raising

variable (plan : LoopPlan τ) (l : Loop) (reference : String)

/-- Actions that are carried out in order, each on the page that the one before has left. -/
inductive Carried : List SubAction → Nat → Stage τ → Nat → Stage τ → Prop
  | none (page : Nat) (s : Stage τ) : Carried [] page s page s
  | next {a : SubAction} {rest : List SubAction} {page mid last : Nat} {s t u : Stage τ}
      (h : runSubAction plan page a s = (.done mid, t)) (later : Carried rest mid t last u) :
      Carried (a :: rest) page s last u

/-- The first of the actions to raise something, and the page on which it did. -/
inductive Stopped (body : List SubAction) (page : Nat) (s : Stage τ) :
    Nat → Failure → Stage τ → Prop
  | intro (before : List SubAction) (a : SubAction) (rest : List SubAction)
      (split : body = before ++ a :: rest) {mid : Nat} {t u : Stage τ} {f : Failure}
      (carried : Carried plan before page s mid t)
      (raised : runSubAction plan mid a t = (.failed f, u)) : Stopped body page s mid f u

/-- The field has been read, and its value has not come to the reference. -/
def Short (page : Nat) (s t : Stage τ) : Prop :=
  ∃ value, fieldValue page l.xpath s = (.done value, t) ∧ reached value reference = false

/-- How an attempt goes, with the page it is on in the end. -/
inductive Attempted (page : Nat) (s : Stage τ) : Reach → Stage τ → Prop
  | reached {value : String} {t : Stage τ}
      (read : fieldValue page l.xpath s = (.done (some value), t)) (filled : value ≠ "")
      (there : reference ≤ value) : Attempted page s ⟨page, .ok true⟩ t
  | unread {f : Failure} {t : Stage τ} (read : fieldValue page l.xpath s = (.failed f, t)) :
      Attempted page s ⟨page, .error f⟩ t
  | stopped {t u : Stage τ} {last : Nat} {f : Failure} (short : Short l reference page s t)
      (stopped : Stopped plan l.body page t last f u) : Attempted page s ⟨last, .error f⟩ u
  | pageless {t u v : Stage τ} {last : Nat} {f : Failure} (short : Short l reference page s t)
      (carried : Carried plan l.body page t last u)
      (lost : Session.ensureActive plan.pageTimeout last u = (.failed f, v)) :
      Attempted page s ⟨last, .error f⟩ v
  | worked {t u v : Stage τ} {last next : Nat} (short : Short l reference page s t)
      (carried : Carried plan l.body page t last u)
      (active : Session.ensureActive plan.pageTimeout last u = (.done next, v)) :
      Attempted page s ⟨next, .ok false⟩ (v.sleep plan.settleDelay)

variable {plan l reference} {page last next : Nat} {s t u : Stage τ} {f : Failure}

lemma Stopped.later {a : SubAction} {rest : List SubAction} {mid : Nat}
    (h : runSubAction plan page a s = (.done mid, t)) (stopped : Stopped plan rest mid t last f u) :
    Stopped plan (a :: rest) page s last f u := by
  obtain ⟨before, b, tail, split, carried, raised⟩ := stopped
  refine ⟨a :: before, b, tail, ?_, .next h carried, raised⟩
  rw [split, List.cons_append]

lemma Carried.run {before : List SubAction} (carried : Carried plan before page s last t)
    (rest : List SubAction) :
    runSubActions plan page (before ++ rest) s = runSubActions plan last rest t := by
  induction carried with
  | none page s => rfl
  | next h later ih => exact (bind_done (attempt_done h)).trans ih

lemma Stopped.run {body : List SubAction} (stopped : Stopped plan body page s last f t) :
    runSubActions plan page body s = (.done ⟨last, .error f⟩, t) := by
  obtain ⟨before, a, rest, rfl, carried, raised⟩ := stopped
  rw [carried.run]
  exact bind_done (attempt_failed raised)

variable (plan) in
/-- The actions are all carried out, or one of them raises something and the others are not. -/
lemma runSubActions_course (body : List SubAction) (page : Nat) (s : Stage τ) :
    (∃ last t, Carried plan body page s last t) ∨
      ∃ last f t, Stopped plan body page s last f t := by
  induction body generalizing page s with
  | nil => exact .inl ⟨page, s, .none page s⟩
  | cons a rest ih =>
    have ends : Within (Deeds plan.pageTimeout noRecord) False (runSubAction plan page a) :=
      runSubAction_deeds plan page a
    rcases h : runSubAction plan page a s with ⟨mid | f | _, t⟩
    · rcases ih mid t with ⟨last, u, carried⟩ | ⟨last, f, u, stopped⟩
      · exact .inl ⟨last, u, .next h carried⟩
      · exact .inr ⟨last, f, u, stopped.later h⟩
    · exact .inr ⟨page, f, t, [], a, rest, rfl, .none page s, h⟩
    · exact absurd (congrArg Prod.fst h) (ends.ends s)

lemma Short.carried (short : Short l reference page s t)
    (carried : Carried plan l.body page t last u) :
    loopAttempt plan l reference page s = finishAttempt plan last u := by
  obtain ⟨value, read, short⟩ := short
  have course : runSubActions plan page l.body t = (.done ⟨last, .ok false⟩, u) := by
    have all := carried.run []
    rw [List.append_nil] at all
    exact all
  rw [loopAttempt, bind_done (attempt_done read)]
  dsimp only
  rw [short, if_neg Bool.false_ne_true, bind_done course]

lemma Short.stopped (short : Short l reference page s t)
    (stopped : Stopped plan l.body page t last f u) :
    loopAttempt plan l reference page s = (.done ⟨last, .error f⟩, u) := by
  obtain ⟨value, read, short⟩ := short
  rw [loopAttempt, bind_done (attempt_done read)]
  dsimp only
  rw [short, if_neg Bool.false_ne_true, bind_done stopped.run]
  rfl

/-- The course of an attempt says what the attempt gives. -/
lemma Attempted.run {reach : Reach} (h : Attempted plan l reference page s reach t) :
    loopAttempt plan l reference page s = (.done reach, t) := by
  cases h with
  | reached read filled there =>
    rw [loopAttempt, bind_done (attempt_done read)]
    dsimp only
    rw [reached_some_iff.mpr ⟨filled, there⟩]
    rfl
  | unread read => exact bind_done (attempt_failed read)
  | stopped short stopped => exact short.stopped stopped
  | pageless short carried lost =>
    rw [short.carried carried]
    exact bind_done (attempt_failed lost)
  | worked short carried active =>
    rw [short.carried carried]
    exact bind_done (attempt_done active)

variable (plan l reference) in
lemma attempted (page : Nat) (s : Stage τ) :
    ∃ reach t, Attempted plan l reference page s reach t := by
  have ends : Within (Deeds 0 noRecord) False (fieldValue page l.xpath : Play τ (Option String)) :=
    fieldValue_deeds page l.xpath
  rcases read : fieldValue page l.xpath s with ⟨value | f | _, t⟩
  · cases there : reached value reference with
    | true =>
      rcases value with _ | value
      · cases there
      · obtain ⟨filled, late⟩ := reached_some_iff.mp there
        exact ⟨_, t, .reached read filled late⟩
    | false =>
      have short : Short l reference page s t := ⟨value, read, there⟩
      rcases runSubActions_course plan l.body page t with ⟨last, u, carried⟩ |
        ⟨last, f, u, stopped⟩
      · rcases Session.ensureActive_cases plan.pageTimeout last u with ⟨next, v, active⟩ | pageless
        · exact ⟨_, _, .worked short carried active⟩
        · exact ⟨_, u, .pageless short carried (Session.ensureActive_pageless pageless)⟩
      · exact ⟨_, u, .stopped short stopped⟩
  · exact ⟨_, t, .unread read⟩
  · exact absurd (congrArg Prod.fst read) (ends.ends s)

/-- Actions that do not wait raise failures of the driver only. -/
lemma runSubAction_raises {P : Failure → Prop} (driven : ∀ d, P (.driver d)) {a : SubAction}
    (busy : ∀ w, a ≠ .wait w) (page : Nat) : Raises P (runSubAction plan page a) := by
  cases a with
  | click c => exact .bind (Browser.click_raises driven page _ _) fun _ => .pure page
  | type e => exact .bind (Browser.fill_raises driven page _ _ _) fun _ => .pure page
  | wait w => exact absurd rfl (busy w)

/-- On a page that is open, only the driver makes an action fail. -/
lemma runSubAction_driven {a : SubAction} (shown : s.isClosed page = false)
    (h : runSubAction plan page a s = (.failed f, t)) : ∃ d, f = .driver d := by
  have driven (d : DriverFailure) : ∃ d', Failure.driver d = .driver d' := ⟨d, rfl⟩
  cases a with
  | click c => exact runSubAction_raises (P := (∃ d, · = .driver d)) driven (by simp) page s f t h
  | type e => exact runSubAction_raises (P := (∃ d, · = .driver d)) driven (by simp) page s f t h
  | wait w =>
    have active : Session.ensureActive plan.pageTimeout page s = (.done page, s) :=
      Session.ensureActive_open shown
    have waited : wait page w.seconds s = Play.orElse
        (Browser.waitForTimeout page (w.seconds * 1000) : Play τ Unit) (fun f => do
          if !(← Play.look (·.isClosed page)) then Play.fail f) s := by
      rw [wait, bind_done (look_run _ s), shown]
      rfl
    rcases failed_of_bind ((bind_done active).symm.trans h) with failed | ⟨⟨⟩, v, -, ended⟩
    · exact waiting_raises (P := (∃ d, · = .driver d)) driven page w.seconds s f t
        (waited.symm.trans failed)
    · cases ended

/-- Only where no page is open does an action raise that there is none. -/
lemma runSubAction_raised {a : SubAction} (h : runSubAction plan page a s = (.failed f, t)) :
    Hopeful f ∨ f = Popup.noPage ∧ t.Pageless page := by
  have driven (d : DriverFailure) : Hopeful (.driver d) := rfl
  cases a with
  | click c => exact .inl (runSubAction_raises driven (by simp) page s f t h)
  | type e => exact .inl (runSubAction_raises driven (by simp) page s f t h)
  | wait w =>
    rcases Session.ensureActive_cases plan.pageTimeout page s with ⟨other, u, active⟩ | pageless
    · have raises : Raises Hopeful (do wait other w.seconds; return other : Play τ Nat) :=
        .bind (wait_raises other _) fun _ => .pure other
      exact .inl (raises u f t ((bind_done active).symm.trans h))
    · have lost : Session.ensureActive plan.pageTimeout page s = (.failed Popup.noPage, s) :=
        Session.ensureActive_pageless pageless
      cases (bind_failed lost).symm.trans h
      exact .inr ⟨rfl, pageless⟩

lemma Attempted.raised (h : Attempted plan l reference page s ⟨last, .error f⟩ t) :
    Hopeful f ∨ f = Popup.noPage ∧ t.Pageless last := by
  cases h with
  | unread read => exact .inl (fieldValue_raises page l.xpath s f t read)
  | stopped short stopped =>
    obtain ⟨before, a, rest, -, carried, raised⟩ := stopped
    exact runSubAction_raised raised
  | pageless short carried lost =>
    obtain ⟨rfl, pageless⟩ := Session.ensureActive_failed lost
    exact .inr ⟨rfl, pageless⟩

section Turns

variable (plan l reference page s)

/-- An attempt that misses the reference, the page that is open after it, and the text of the
failure that was put aside. -/
inductive Missed : Nat → Option String → Stage τ → Prop
  | worked {next : Nat} {t : Stage τ} (h : Attempted plan l reference page s ⟨next, .ok false⟩ t) :
      Missed next none t
  | failed {last next : Nat} {f : Failure} {t u : Stage τ}
      (h : Attempted plan l reference page s ⟨last, .error f⟩ t) (hopeful : Hopeful f)
      (active : Session.ensureActive plan.pageTimeout last t = (.done next, u)) :
      Missed next (some f.message) u

/-- What an attempt means for the loop. -/
inductive Turned : Ending Turn → Stage τ → Prop
  | reached {value : String} {t : Stage τ}
      (read : fieldValue page l.xpath s = (.done (some value), t)) (filled : value ≠ "")
      (there : reference ≤ value) : Turned (.done (.reached page)) t
  | missed {next : Nat} {error : Option String} {t : Stage τ}
      (h : Missed plan l reference page s next error t) : Turned (.done (.missed next error)) t
  | lost {last : Nat} {f : Failure} {t : Stage τ}
      (h : Attempted plan l reference page s ⟨last, .error f⟩ t) (pageless : t.Pageless last) :
      Turned (.failed Popup.noPage) t

variable {plan l reference page s}

lemma Missed.run {error : Option String} (h : Missed plan l reference page s next error t) :
    takeTurn plan l reference page s = (.done (.missed next error), t) := by
  rw [takeTurn]
  cases h with
  | worked h => exact bind_done h.run
  | failed h hopeful active =>
    rw [bind_done h.run]
    dsimp only
    rw [hopeful]
    exact bind_done active

lemma Turned.run {e : Ending Turn} (h : Turned plan l reference page s e t) :
    takeTurn plan l reference page s = (e, t) := by
  cases h with
  | reached read filled there =>
    rw [takeTurn]
    exact bind_done (Attempted.reached read filled there).run
  | missed missed => exact missed.run
  | @lost last f _ attempted pageless =>
    rw [takeTurn, bind_done attempted.run]
    dsimp only
    cases hopeless : isHopeless f with
    | true =>
      rcases attempted.raised with hopeful | ⟨rfl, -⟩
      · exact absurd (hopeful.symm.trans hopeless) Bool.false_ne_true
      · rfl
    | false => exact bind_failed (Session.ensureActive_pageless pageless)

variable (plan l reference page s) in
lemma turned : ∃ e t, Turned plan l reference page s e t := by
  obtain ⟨⟨last, outcome⟩, t, attempted⟩ := attempted plan l reference page s
  rcases outcome with f | (_ | _)
  · rcases attempted.raised with hopeful | ⟨-, pageless⟩
    · rcases Session.ensureActive_cases plan.pageTimeout last t with ⟨next, u, active⟩ | pageless
      · exact ⟨_, u, .missed (.failed attempted hopeful active)⟩
      · exact ⟨_, t, .lost attempted pageless⟩
    · exact ⟨_, t, .lost attempted pageless⟩
  · exact ⟨_, t, .missed (.worked attempted)⟩
  · cases attempted with
    | reached read filled there => exact ⟨_, t, .reached read filled there⟩

end Turns

section Rounds

/-- Where a loop stands before an attempt: its number, the page it is made on, the text of the
failure that the attempt before it has put aside, and the stage. -/
structure Round (τ : Type) where
  attempt : Int
  page : Nat
  lastError : Option String
  stage : Stage τ

variable (plan l reference) (hook : Nat → Int → Play τ Unit)

/-- So many attempts in a row have missed, and after each the hook has been called with the number
of the attempt, on the page to go on with. -/
inductive Rounds : Round τ → Nat → Round τ → Prop
  | none (x : Round τ) : Rounds x 0 x
  | missed {x y : Round τ} {next n : Nat} {error : Option String} {t u : Stage τ}
      (h : Missed plan l reference x.page x.stage next error t)
      (called : hook next x.attempt t = (.done (), u))
      (later : Rounds ⟨x.attempt + 1, next, error, u⟩ n y) : Rounds x (n + 1) y

/-- How a loop ends that has so many attempts left. -/
inductive Looped (bound : Int) (x : Round τ) (left : Nat) : Ending Nat → Stage τ → Prop
  /-- In an attempt that has done nothing but read the field, its value is there. -/
  | returned {n : Nat} {y : Round τ} (rounds : Rounds plan l reference hook x n y)
      (early : n < left) {value : String} {t : Stage τ}
      (read : fieldValue y.page l.xpath y.stage = (.done (some value), t)) (filled : value ≠ "")
      (there : reference ≤ value) : Looped bound x left (.done y.page) t
  /-- All attempts have missed. The failure tells of what the last of them has put aside. -/
  | exceeded {y : Round τ} (rounds : Rounds plan l reference hook x left y) :
      Looped bound x left (.failed (.engine (.loopExceeded l.xpath bound y.lastError))) y.stage
  /-- In an attempt the page that the loop is on has closed, and no other is open. -/
  | pageless {n : Nat} {y : Round τ} (rounds : Rounds plan l reference hook x n y)
      (early : n < left) {last : Nat} {f : Failure} {t : Stage τ}
      (h : Attempted plan l reference y.page y.stage ⟨last, .error f⟩ t)
      (none : t.Pageless last) : Looped bound x left (.failed Popup.noPage) t

variable {plan l reference hook}

lemma Looped.later {bound : Int} {x : Round τ} {left next : Nat} {error : Option String}
    {t u v : Stage τ} {e : Ending Nat} (h : Missed plan l reference x.page x.stage next error t)
    (called : hook next x.attempt t = (.done (), u))
    (looped : Looped plan l reference hook bound ⟨x.attempt + 1, next, error, u⟩ left e v) :
    Looped plan l reference hook bound x (left + 1) e v := by
  cases looped with
  | returned rounds early read filled there =>
    exact .returned (.missed h called rounds) (Nat.succ_lt_succ early) read filled there
  | exceeded rounds => exact .exceeded (.missed h called rounds)
  | pageless rounds early h' none =>
    exact .pageless (.missed h called rounds) (Nat.succ_lt_succ early) h' none

/-- The hook raises nothing when the loop calls it. -/
def Calm (plan : LoopPlan τ) (l : Loop) (reference : String) (hook : Nat → Int → Play τ Unit)
    (x : Round τ) (left : Nat) : Prop :=
  ∀ c ∈ hookCalls plan l reference hook x.attempt x.page left x.stage,
    (hook c.page c.attempt c.stage).1 = .done ()

lemma Calm.missed {x : Round τ} {left next : Nat} {error : Option String} {t : Stage τ}
    (calm : Calm plan l reference hook x (left + 1))
    (h : takeTurn plan l reference x.page x.stage = (.done (.missed next error), t)) :
    ∃ u, hook next x.attempt t = (.done (), u) ∧
      Calm plan l reference hook ⟨x.attempt + 1, next, error, u⟩ left := by
  unfold Calm hookCalls at calm
  rw [h] at calm
  obtain ⟨first, others⟩ := List.forall_mem_cons.mp calm
  rcases called : hook next x.attempt t with ⟨⟨⟩ | f | _, u⟩ <;> rw [called] at first others
  · exact ⟨u, rfl, others⟩
  · cases first
  · cases first

lemma loopFrom_looped (bound : Int) (x : Round τ) (left : Nat)
    (calm : Calm plan l reference hook x left) :
    ∃ e t, loopFrom plan l reference bound hook x.attempt x.page x.lastError left x.stage =
      (e, t) ∧ Looped plan l reference hook bound x left e t := by
  induction left generalizing x with
  | zero => exact ⟨_, x.stage, rfl, .exceeded (.none x)⟩
  | succ left ih =>
    obtain ⟨e, t, turned⟩ := turned plan l reference x.page x.stage
    have h := turned.run
    rw [loopFrom]
    cases turned with
    | reached read filled there =>
      rw [bind_done h]
      exact ⟨_, t, rfl, .returned (.none x) (Nat.succ_pos left) read filled there⟩
    | missed missed =>
      rw [bind_done h]
      obtain ⟨u, called, calm⟩ := calm.missed h
      obtain ⟨e, v, later, looped⟩ := ih _ calm
      exact ⟨e, v, (bind_done called).trans later, looped.later missed called⟩
    | lost attempted pageless =>
      rw [bind_failed h]
      exact ⟨_, t, rfl, .pageless (.none x) (Nat.succ_pos left) attempted pageless⟩

end Rounds

/-- A loop whose hook raises nothing ends in one of three ways, as `Looped` says. It gives the
page on which an attempt has found the value there; or it has made all its attempts, and fails
with their number and with the failure that the last of them has put aside, if it has; or it
fails because no page is open. Whatever it has missed before, the hook has been called for each
attempt in turn, counting from one. -/
theorem loopUntil_looped (settings : Settings) (l : Loop) (reference : String)
    (hook : Nat → Int → Play Float Unit) (page : Nat) (s : Stage Float)
    (calm : Calm (.ofSettings settings) l reference hook ⟨1, page, none, s⟩
      (attemptBound l settings).toNat) :
    ∃ e t, loopUntil (.ofSettings settings) l reference (attemptBound l settings) hook page s =
        (e, t) ∧
      Looped (.ofSettings settings) l reference hook (attemptBound l settings)
        ⟨1, page, none, s⟩ (attemptBound l settings).toNat e t :=
  loopFrom_looped _ ⟨1, page, none, s⟩ _ calm

/-- A page with a field that holds a date. -/
def dated : Stage Float :=
  { now := 0
    pages := [{ elements := [{ selectors := ["xpath=//input"], value := some "2024-01-01" }] }] }

/-- A loop that enters a later date into the field. -/
def redating : Loop := { xpath := "//input", body := [.type ⟨"//input", "2025-01-01"⟩] }

/-- The first attempt enters the date that the second one finds; the hook is called once. -/
theorem loopUntil_looped_redating : ∃ t : Stage Float,
    (hookCalls (.ofSettings Settings.standard) redating "2024-05-01" (fun _ _ => pure ()) 1 0
      (attemptBound redating Settings.standard).toNat dated).map (·.attempt) = [1] ∧
    Calm (.ofSettings Settings.standard) redating "2024-05-01" (fun _ _ => pure ())
      ⟨1, 0, none, dated⟩ (attemptBound redating Settings.standard).toNat ∧
    loopUntil (.ofSettings Settings.standard) redating "2024-05-01"
      (attemptBound redating Settings.standard) (fun _ _ => pure ()) 0 dated = (.done 0, t) ∧
    Looped (.ofSettings Settings.standard) redating "2024-05-01" (fun _ _ => pure ())
      (attemptBound redating Settings.standard) ⟨1, 0, none, dated⟩
      (attemptBound redating Settings.standard).toNat (.done 0) t := by
  have called : (hookCalls (.ofSettings Settings.standard) redating "2024-05-01"
      (fun _ _ => pure ()) 1 0 (attemptBound redating Settings.standard).toNat dated).map
        (·.attempt) = [1] := by decide +kernel
  have calm : Calm (.ofSettings Settings.standard) redating "2024-05-01" (fun _ _ => pure ())
      ⟨1, 0, none, dated⟩ (attemptBound redating Settings.standard).toNat := fun _ _ => rfl
  obtain ⟨e, t, h, looped⟩ := loopUntil_looped Settings.standard redating "2024-05-01"
    (fun _ _ => pure ()) 0 dated calm
  have found : (loopUntil (.ofSettings Settings.standard) redating "2024-05-01"
      (attemptBound redating Settings.standard) (fun _ _ => pure ()) 0 dated).1.value? =
        some 0 := by decide +kernel
  rw [h] at found
  rcases e with page | f | _
  · obtain rfl := Option.some.inj found
    exact ⟨t, called, calm, h, looped⟩
  · cases found
  · cases found

end Target
end Rehearsal
