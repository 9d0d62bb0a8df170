import Rehearsal.Proofs.ActionCourse
import Rehearsal.Proofs.DateText
import Rehearsal.Proofs.LoopCourse

/-!
# Loops that count up to a day

A loop compares texts. Where a field only ever holds dates, and the reference is the day that the
clock shows, it compares days: it ends in the first attempt that reads a day not before the
reference, and every attempt before it has carried out all of its actions. Only its attempts can
run out.
-/

namespace Rehearsal

open Play

/-- The calendar day of a moment. -/
lemma Moment.ofMicros_date {n : Int} {m : Moment} (h : ofMicros n = .ok m) :
    m.date.OnCalendar := by
  simp only [ofMicros] at h
  split at h
  · cases h
  · next inside =>
    cases h
    exact (Date.onCalendar_iff _).mpr ⟨_, by omega, by omega, rfl⟩

lemma Moment.after_date {seconds span : Int} {m : Moment} (h : after seconds span = .ok m) :
    m.date.OnCalendar := by
  simp only [after] at h
  split at h
  · cases h
  · split at h
    · cases h
    · exact ofMicros_date h

lemma Clock.moment_date {epoch : Int} {now : Float} {m : Moment}
    (h : Clock.moment epoch now = .ok m) : m.date.OnCalendar := by
  simp only [Clock.moment] at h
  split at h
  · exact Moment.after_date h
  · cases h
  · cases h

lemma Run.today_run {s : Stage Float} {m : Moment} (h : Clock.moment s.epoch s.now = .ok m) :
    Run.today s = (.done m.date.iso, s) := by
  have told : Play.moment s = (.done m, s) := by
    rw [Play.moment, h]
  exact bind_done told

lemma Play.done_of_value {τ α : Type} {p : Play τ α} {s : Stage τ} {a : α}
    (h : (p s).1.value? = some a) : ∃ t, p s = (.done a, t) := by
  rcases run : p s with ⟨b | f | _, t⟩ <;> rw [run] at h <;> cases h
  exact ⟨t, rfl⟩

namespace Target

variable {τ : Type} [Clock τ] {plan : LoopPlan τ} {l : Loop} {reference : String}
  {hook : Nat → Int → Play τ Unit} {page last next n left : Nat} {error : Option String}
  {x y : Round τ} {s t u : Stage τ} {a : SubAction}

lemma reached_iso {d day : Date} (hd : d.OnCalendar) (hday : day.OnCalendar) :
    reached (some d.iso) day.iso = true ↔ day ≤ d := by
  rw [reached_some_iff, Date.iso_le_iff hday hd]
  exact and_iff_right d.iso_ne_empty

section OpenPages

/-- On a page that is open, an action stays. -/
lemma runSubAction_same (shown : s.isClosed page = false)
    (h : runSubAction plan page a s = (.done last, t)) : last = page := by
  cases a with
  | click c =>
    obtain ⟨⟨⟩, u, -, h⟩ := done_of_bind h
    cases h
    rfl
  | type e =>
    obtain ⟨⟨⟩, u, -, h⟩ := done_of_bind h
    cases h
    rfl
  | wait w =>
    obtain ⟨mid, u, active, h⟩ := done_of_bind h
    cases (Session.ensureActive_open shown).symm.trans active
    obtain ⟨⟨⟩, v, -, h⟩ := done_of_bind h
    cases h
    rfl

/-- Actions that each begin on an open page stay on the first. -/
lemma Carried.same {before : List SubAction} (carried : Carried plan before page s last t)
    (shown : ∀ {first rest a mid u}, before = first ++ a :: rest →
      Carried plan first page s mid u → u.isClosed mid = false) : last = page := by
  induction carried with
  | none page s => rfl
  | next h later ih =>
    obtain rfl := runSubAction_same (shown (List.nil_append _).symm (.none _ _)) h
    exact ih fun split before => shown (congrArg (_ :: ·) split) (.next h before)

end OpenPages

section Laps

variable (plan l reference hook)

/-- Where a loop with so many attempts is between two actions of one of them: the actions that are
still to come, the page and the stage. -/
inductive Amid (x : Round τ) (left : Nat) (rest : List SubAction) (page : Nat) (u : Stage τ) : Prop
  | intro {n : Nat} {y : Round τ} (rounds : Rounds plan l reference hook x n y) (early : n < left)
      {t : Stage τ} (short : Short l reference y.page y.stage t) {before : List SubAction}
      (split : l.body = before ++ rest) (carried : Carried plan before y.page t page u) :
      Amid x left rest page u

/-- A world for a loop with so many attempts in which the field always holds a date, no call of the
driver fails and the page stays open. The dates are numbered, from zero on, by the attempts that
read them. -/
structure Undisturbed (x : Round τ) (left : Nat) (dates : Nat → Date) : Prop where
  dated : ∀ {n y}, Rounds plan l reference hook x n y → n < left → (dates n).OnCalendar ∧
    ∃ t, fieldValue y.page l.xpath y.stage = (.done (some (dates n).iso), t)
  unfailing : ∀ {a rest page s}, Amid plan l reference hook x left (a :: rest) page s →
    ∀ d, (runSubAction plan page a s).1 ≠ .failed (.driver d)
  shown : ∀ {rest page s}, Amid plan l reference hook x left rest page s →
    s.isClosed page = false

/-- So many attempts in a row have each found the field short of the reference, carried out all of
the loop's actions on the same page, paused and called the hook. -/
inductive Laps : Round τ → Nat → Round τ → Prop
  | start (x : Round τ) : Laps x 0 x
  | lap {x y : Round τ} {n : Nat} {t u v : Stage τ} (short : Short l reference x.page x.stage t)
      (carried : Carried plan l.body x.page t x.page u) (shown : u.isClosed x.page = false)
      (called : hook x.page x.attempt (u.sleep plan.settleDelay) = (.done (), v))
      (later : Laps ⟨x.attempt + 1, x.page, none, v⟩ n y) : Laps x (n + 1) y

variable {plan l reference hook} {dates : Nat → Date} {day : Date}

lemma Missed.lap (short : Short l reference page s t) (carried : Carried plan l.body page t page u)
    (shown : u.isClosed page = false) :
    Missed plan l reference page s page none (u.sleep plan.settleDelay) :=
  .worked (.worked short carried (Session.ensureActive_open shown))

lemma Laps.rounds (laps : Laps plan l reference hook x n y) :
    Rounds plan l reference hook x n y := by
  induction laps with
  | start x => exact .none x
  | lap short carried shown called later ih => exact .missed (.lap short carried shown) called ih

lemma Laps.same_page (laps : Laps plan l reference hook x n y) : y.page = x.page := by
  induction laps with
  | start x => rfl
  | lap short carried shown called later ih => exact ih

lemma Laps.unfailed (laps : Laps plan l reference hook x n y) (h : x.lastError = none) :
    y.lastError = none := by
  induction laps with
  | start x => exact h
  | lap short carried shown called later ih => exact ih rfl

/-- Laps are all that a loop does in its first attempts. -/
lemma Laps.run (laps : Laps plan l reference hook x n y) (bound : Int) (left : Nat) :
    loopFrom plan l reference bound hook x.attempt x.page x.lastError (left + n) x.stage =
      loopFrom plan l reference bound hook y.attempt y.page y.lastError left y.stage := by
  induction laps with
  | start x => rfl
  | lap short carried shown called later ih =>
    rw [← Nat.add_assoc, loopFrom, bind_done (Missed.lap short carried shown).run]
    exact (bind_done called).trans ih

lemma Amid.later {rest : List SubAction} (h : Missed plan l reference x.page x.stage next error t)
    (called : hook next x.attempt t = (.done (), u))
    (amid : Amid plan l reference hook ⟨x.attempt + 1, next, error, u⟩ left rest page s) :
    Amid plan l reference hook x (left + 1) rest page s := by
  obtain ⟨rounds, early, short, split, carried⟩ := amid
  exact ⟨.missed h called rounds, Nat.succ_lt_succ early, short, split, carried⟩

/-- What comes after an attempt is undisturbed as well. -/
lemma Undisturbed.later (world : Undisturbed plan l reference hook x (left + 1) dates)
    (h : Missed plan l reference x.page x.stage next error t)
    (called : hook next x.attempt t = (.done (), u)) :
    Undisturbed plan l reference hook ⟨x.attempt + 1, next, error, u⟩ left
      fun n => dates (n + 1) where
  dated rounds early := world.dated (.missed h called rounds) (Nat.succ_lt_succ early)
  unfailing amid := world.unfailing (amid.later h called)
  shown amid := world.shown (amid.later h called)

/-- All actions of an attempt are carried out on its page, since each of them finds it open. -/
lemma Undisturbed.carried (world : Undisturbed plan l reference hook x (left + 1) dates)
    (short : Short l reference x.page x.stage t) :
    ∃ u, Carried plan l.body x.page t x.page u ∧ u.isClosed x.page = false := by
  have amid {before rest : List SubAction} {mid : Nat} {u : Stage τ}
      (split : l.body = before ++ rest) (carried : Carried plan before x.page t mid u) :
      Amid plan l reference hook x (left + 1) rest mid u :=
    ⟨.none x, Nat.succ_pos left, short, split, carried⟩
  rcases runSubActions_course plan l.body x.page t with ⟨last, u, carried⟩ |
    ⟨last, f, u, before, a, rest, split, carried, raised⟩
  · obtain rfl : last = x.page :=
      carried.same fun split before => world.shown (amid split before)
    exact ⟨u, carried, world.shown (amid (List.append_nil l.body).symm carried)⟩
  · obtain ⟨d, rfl⟩ := runSubAction_driven (world.shown (amid split carried)) raised
    exact absurd (congrArg Prod.fst raised) (world.unfailing (amid split carried) d)

/-- As long as the dates are before the reference, an undisturbed loop makes lap after lap. -/
lemma Undisturbed.laps (world : Undisturbed plan l day.iso hook x left dates)
    (hday : day.OnCalendar) (calm : Calm plan l day.iso hook x left) (enough : n ≤ left)
    (early : ∀ i < n, dates i < day) : ∃ y, Laps plan l day.iso hook x n y := by
  induction n generalizing x dates left with
  | zero => exact ⟨x, .start x⟩
  | succ n ih =>
    obtain ⟨left, rfl⟩ : ∃ m, left = m + 1 := Nat.exists_eq_add_one.mpr (by omega)
    obtain ⟨dated, t, read⟩ := world.dated (.none x) (Nat.succ_pos _)
    have short : Short l day.iso x.page x.stage t := by
      refine ⟨_, read, Bool.eq_false_iff.mpr fun there => ?_⟩
      exact absurd ((reached_iso dated hday).mp there) (not_le_of_gt (early 0 (Nat.succ_pos n)))
    obtain ⟨u, carried, shown⟩ := world.carried short
    have missed := Missed.lap short carried shown
    obtain ⟨v, called, calm⟩ := calm.missed missed.run
    obtain ⟨y, laps⟩ := ih (world.later missed called) calm (Nat.le_of_succ_le_succ enough)
      fun i hi => early (i + 1) (Nat.succ_lt_succ hi)
    exact ⟨y, .lap short carried shown called laps⟩

end Laps

/-- A loop that reads these dates, one in each attempt, up to a day. -/
structure Counted (plan : LoopPlan τ) (l : Loop) (day : Date) (bound : Int)
    (hook : Nat → Int → Play τ Unit) (page : Nat) (s : Stage τ) (dates : Nat → Date) : Prop where
  /-- In the first attempt that reads a date not before the day, the loop does nothing else. -/
  returned : ∀ k < bound.toNat, (∀ i < k, dates i < day) → day ≤ dates k →
    ∃ y t, Laps plan l day.iso hook ⟨1, page, none, s⟩ k y ∧
      fieldValue page l.xpath y.stage = (.done (some (dates k).iso), t) ∧
      loopUntil plan l day.iso bound hook page s = (.done page, t)
  /-- Where there is no such attempt, the loop goes through all of its actions in each. -/
  exceeded : (∀ k < bound.toNat, dates k < day) →
    ∃ y, Laps plan l day.iso hook ⟨1, page, none, s⟩ bound.toNat y ∧
      loopUntil plan l day.iso bound hook page s =
        (.failed (.engine (.loopExceeded l.xpath bound none)), y.stage)

lemma Undisturbed.counted {day : Date} {bound : Int} {dates : Nat → Date} (hday : day.OnCalendar)
    (world : Undisturbed plan l day.iso hook ⟨1, page, none, s⟩ bound.toNat dates)
    (calm : Calm plan l day.iso hook ⟨1, page, none, s⟩ bound.toNat) :
    Counted plan l day bound hook page s dates where
  returned k hk before there := by
    obtain ⟨left, count⟩ : ∃ left, bound.toNat = left + 1 + k := ⟨bound.toNat - k - 1, by omega⟩
    obtain ⟨y, laps⟩ := world.laps hday calm (Nat.le_of_lt hk) before
    obtain ⟨dated, t, read⟩ := world.dated laps.rounds hk
    have found : Turned plan l day.iso y.page y.stage (.done (.reached y.page)) t :=
      .reached read (dates k).iso_ne_empty ((Date.iso_le_iff hday dated).mpr there)
    have run := laps.run bound (left + 1)
    rw [loopFrom, bind_done found.run, laps.same_page, ← count] at run
    rw [laps.same_page] at read
    exact ⟨y, t, laps, read, run⟩
  exceeded before := by
    obtain ⟨y, laps⟩ := world.laps hday calm (Nat.le_refl _) before
    have run := laps.run bound 0
    rw [loopFrom, laps.unfailed rfl, Nat.zero_add] at run
    exact ⟨y, laps, run⟩

/-- Dates are compared as days when their texts are. So a loop that counts up to the day on which it
begins, in a world where nothing disturbs it, returns in the first attempt that reads a date not
before that day, and has carried out all of its actions once for each attempt before. If it reads
no such date, it has done so in all of its attempts, and fails because they are used up. -/
theorem dates_counted :
    (∀ a b : Date, a.OnCalendar → b.OnCalendar → (reached (some a.iso) b.iso = true ↔ b ≤ a)) ∧
    ∀ (settings : Settings) (l : Loop) (hook : Nat → Int → Play Float Unit) (page : Nat)
      (s : Stage Float) (now : Moment) (dates : Nat → Date),
      Clock.moment s.epoch s.now = .ok now →
      Calm (.ofSettings settings) l now.date.iso hook ⟨1, page, none, s⟩
        (attemptBound l settings).toNat →
      Undisturbed (.ofSettings settings) l now.date.iso hook ⟨1, page, none, s⟩
        (attemptBound l settings).toNat dates →
      Run.today s = (.done now.date.iso, s) ∧
      (∀ index state, Run.repeatLoop settings index state l s =
        state.goOn (loopUntil (.ofSettings settings) l now.date.iso (attemptBound l settings)
          (Run.loopHook settings index l) state.current) s) ∧
      Counted (.ofSettings settings) l now.date (attemptBound l settings) hook page s dates := by
  refine ⟨fun a b ha hb => reached_iso ha hb, ?_⟩
  intro settings l hook page s now dates shows calm world
  have told : Run.today s = (.done now.date.iso, s) := Run.today_run shows
  refine ⟨told, fun index state => Run.repeatLoop_run settings told, ?_⟩
  exact world.counted (Clock.moment_date shows) calm

/-- The loop with two attempts only. -/
def redatingTwice : Loop := { redating with maxAttempts := some 2 }

/-- The dates that its attempts read. -/
def entered (n : Nat) : Date := if n = 0 then ⟨2024, 1, 1⟩ else ⟨2025, 1, 1⟩

/-- The moment at which it begins. -/
def noon : Moment := { date := ⟨2024, 5, 1⟩, micros := 43200000000 }

/-- What its second attempt reads. -/
def readAgain : Option (Option String) :=
  match takeTurn (.ofSettings Settings.standard) redatingTwice noon.date.iso 0 dated with
  | (.done (.missed next _), t) => (fieldValue next redating.xpath t).1.value?
  | _ => none

/-- Is the page closed before the date is entered, and afterwards? -/
def closedAround : Option (Bool × Bool) :=
  let t := (fieldValue 0 redating.xpath dated).2
  match runSubAction (.ofSettings Settings.standard) 0 (.type ⟨"//input", "2025-01-01"⟩) t with
  | (.done page, u) => some (t.isClosed 0, u.isClosed page)
  | _ => none

/-- The first attempt reads the date that is there, the second one the date that is entered. -/
lemma entered_read {n : Nat} {y : Round Float}
    (rounds : Rounds (.ofSettings Settings.standard) redatingTwice noon.date.iso
      (fun _ _ => pure ()) ⟨1, 0, none, dated⟩ n y) (early : n < 2) :
    ∃ t, fieldValue y.page redating.xpath y.stage = (.done (some (entered n).iso), t) := by
  cases rounds with
  | none => exact done_of_value (by decide +kernel)
  | missed h called later =>
    have read : readAgain = some (some (entered 1).iso) := by decide +kernel
    cases later with
    | none =>
      cases called
      rw [readAgain, h.run] at read
      exact done_of_value read
    | missed => omega

/-- The second attempt finds the date there, so all actions belong to the first. -/
lemma entered_amid {rest : List SubAction} {page : Nat} {u : Stage Float}
    (h : Amid (.ofSettings Settings.standard) redatingTwice noon.date.iso (fun _ _ => pure ())
      ⟨1, 0, none, dated⟩ 2 rest page u) : u.isClosed page = false ∧ ∀ a tail, rest = a :: tail →
        ∃ next t, runSubAction (.ofSettings Settings.standard) page a u = (.done next, t) := by
  have around : closedAround = some (false, false) := by decide +kernel
  cases h with
  | @intro n y rounds early t short before split carried =>
    obtain ⟨value, read, short⟩ := short
    obtain ⟨v, found⟩ := entered_read rounds early
    cases found.symm.trans read
    cases rounds with
    | none =>
      rw [closedAround, found] at around
      dsimp only at around
      split at around
      · next last w entering =>
        obtain ⟨start, finish⟩ := Prod.mk.inj (Option.some.inj around)
        cases carried with
        | none =>
          obtain rfl : rest = _ := split.symm
          refine ⟨start, fun a tail same => ?_⟩
          cases same
          exact ⟨last, w, entering⟩
        | next h later =>
          obtain ⟨rfl, ends⟩ := List.cons.inj split
          obtain ⟨rfl, rfl⟩ := List.append_eq_nil_iff.mp ends.symm
          cases later
          cases entering.symm.trans h
          exact ⟨finish, nofun⟩
      · cases around
    | missed h called later =>
      cases later with
      | none => exact absurd short (by decide +kernel)
      | missed => omega

lemma entered_undisturbed : Undisturbed (.ofSettings Settings.standard) redatingTwice noon.date.iso
    (fun _ _ => pure ()) ⟨1, 0, none, dated⟩ 2 entered where
  dated {n y} rounds early := by
    refine ⟨?_, entered_read rounds early⟩
    rw [entered]
    split <;> exact ⟨by decide, by decide, by decide⟩
  unfailing {a rest page s} h d failed := by
    obtain ⟨next, t, done⟩ := (entered_amid h).2 a rest rfl
    rw [done] at failed
    cases failed
  shown h := (entered_amid h).1

/-- The first attempt enters the date that ends the loop in the second one. -/
theorem dates_counted_redating :
    Clock.moment dated.epoch dated.now = .ok noon ∧
    Calm (.ofSettings Settings.standard) redatingTwice noon.date.iso (fun _ _ => pure ())
      ⟨1, 0, none, dated⟩ (attemptBound redatingTwice Settings.standard).toNat ∧
    Undisturbed (.ofSettings Settings.standard) redatingTwice noon.date.iso (fun _ _ => pure ())
      ⟨1, 0, none, dated⟩ (attemptBound redatingTwice Settings.standard).toNat entered ∧
    Run.today dated = (.done "2024-05-01", dated) ∧
    ∃ y t, Laps (.ofSettings Settings.standard) redatingTwice "2024-05-01" (fun _ _ => pure ())
        ⟨1, 0, none, dated⟩ 1 y ∧
      fieldValue 0 "//input" y.stage = (.done (some "2025-01-01"), t) ∧
      loopUntil (.ofSettings Settings.standard) redatingTwice "2024-05-01"
        (attemptBound redatingTwice Settings.standard) (fun _ _ => pure ()) 0 dated =
          (.done 0, t) := by
  have shows : Clock.moment dated.epoch dated.now = .ok noon := by decide +kernel
  have calm : Calm (.ofSettings Settings.standard) redatingTwice noon.date.iso
      (fun _ _ => pure ()) ⟨1, 0, none, dated⟩
      (attemptBound redatingTwice Settings.standard).toNat := fun _ _ => rfl
  have day : noon.date.iso = "2024-05-01" := by decide +kernel
  have later : (entered 1).iso = "2025-01-01" := by decide +kernel
  obtain ⟨told, -, counted⟩ := dates_counted.2 Settings.standard redatingTwice
    (fun _ _ => pure ()) 0 dated noon entered shows calm entered_undisturbed
  obtain ⟨y, t, laps, read, returned⟩ := counted.returned 1 (by decide) (by decide) (by decide)
  rw [day] at told laps returned
  rw [later] at read
  exact ⟨shows, calm, entered_undisturbed, told, y, t, laps, read, returned⟩

end Target

end Rehearsal
