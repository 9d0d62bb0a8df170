import Mathlib.Algebra.Order.Field.Rat
import Mathlib.Data.Rat.Floor
import Mathlib.Tactic.Lemma
import Mathlib.Tactic.Ring
import Rehearsal.Proofs.Exchanges

/-!
# A clock that only pauses advance

Fractions of seconds make an exact clock, on which no addition rounds. Scripts may let time
pass too; where none of those that are due by themselves does, a clock is moved by nothing but
pauses, and after so many of them it shows the sum of their spans.
-/

namespace Rehearsal

namespace Clock

/-- The whole number nearest to a fraction; a half goes to the even neighbour. -/
def nearest (q : ℚ) : ℤ :=
  let n : ℤ := Decimal.roundDiv q.num.natAbs q.den
  if q < 0 then -n else n

instance : Clock ℚ where
  ofInt n := n
  add := (· + ·)
  le a b := a ≤ b
  lt a b := a < b
  rounded q := (if q < 0 then "-" else "") ++ toString (Decimal.roundDiv q.num.natAbs q.den)
  moment epoch now := match Moment.ofSeconds epoch with
    | .ok _ => Moment.after epoch (nearest (now * 1000000))
    | .error f => .error f
  nanos q := ⌊q * 1000000000⌋

lemma add_exact (a b : ℚ) : Clock.add a b = a + b := rfl

lemma le_exact {a b : ℚ} : Clock.le a b = true ↔ a ≤ b := decide_eq_true_iff

lemma lt_exact {a b : ℚ} : Clock.lt a b = true ↔ a < b := decide_eq_true_iff

lemma positive_exact {a : ℚ} : Clock.positive a = true ↔ 0 < a := by
  rw [Clock.positive, lt_exact, Clock.zero]
  exact Iff.of_eq (congrArg (· < a) Int.cast_zero)

lemma atLeastOne_exact (a : ℚ) : Clock.atLeastOne a = max a 1 := by
  have one : (Clock.ofInt 1 : ℚ) = 1 := Int.cast_one
  rw [Clock.atLeastOne, one]
  split
  · next below => exact (max_eq_right (le_of_lt (lt_exact.mp below))).symm
  · next above => exact (max_eq_left (not_lt.mp (mt lt_exact.mpr above))).symm

end Clock

variable {τ : Type}

/-- Does the effect let time pass? -/
def Effect.elapses : Effect τ → Bool
  | .elapse _ => true
  | _ => false

/-- The time that the effect lets pass. -/
def Effect.span : Effect ℚ → ℚ
  | .elapse span => span
  | _ => 0

namespace Stage

/-- Nothing that is due by itself lets time pass. -/
def Steady (s : Stage τ) : Prop := ∀ entry ∈ s.meanwhile, ∀ e ∈ entry.2, e.elapses = false

/-- What no effect touches. -/
structure Settled (s t : Stage τ) : Prop where
  epoch : t.epoch = s.epoch
  answers : t.answers = s.answers
  meanwhile : t.meanwhile = s.meanwhile

/-- What an effect that lets no time pass leaves alone. -/
structure Instant (s t : Stage τ) : Prop extends Settled s t where
  now : t.now = s.now

instance : Std.Refl (@Settled τ) where
  refl _ := ⟨rfl, rfl, rfl⟩

instance : IsTrans (Stage τ) Settled where
  trans _ _ _ h k := ⟨k.epoch.trans h.epoch, k.answers.trans h.answers,
    k.meanwhile.trans h.meanwhile⟩

instance : Std.Refl (@Instant τ) where
  refl s := ⟨refl s, rfl⟩

instance : IsTrans (Stage τ) Instant where
  trans _ _ _ h k := ⟨IsTrans.trans _ _ _ h.toSettled k.toSettled, k.now.trans h.now⟩

variable [Clock τ] (s : Stage τ) (id : Nat)

lemma instant_openPage (url : Value) (page : Page (Effect τ)) :
    Instant s (s.openPage url page) := by
  unfold openPage
  dsimp only
  split <;> exact ⟨⟨rfl, rfl, rfl⟩, rfl⟩

lemma instant_act {e : Effect τ} (h : e.elapses = false) : Instant s (s.act id e).2 := by
  cases e with
  | openPage url page => exact instant_openPage s url page
  | dialog type message fault =>
    exact emit_within s id .dialog fun t => ⟨⟨rfl, rfl, rfl⟩, rfl⟩
  | crash => exact emit_within s id .crash fun t => ⟨⟨rfl, rfl, rfl⟩, rfl⟩
  | pageError message => exact emit_within s id .pageError fun t => ⟨⟨rfl, rfl, rfl⟩, rfl⟩
  | elapse span => cases h
  | _ => exact ⟨⟨rfl, rfl, rfl⟩, rfl⟩

lemma instant_perform {e : Effect τ} (h : e.elapses = false) :
    Instant s (s.perform id e).2 := by
  have seen : Instant s (s.witness id e) := ⟨⟨rfl, rfl, rfl⟩, rfl⟩
  exact IsTrans.trans _ _ _ seen (instant_act _ id h)

lemma settled_perform (e : Effect τ) : Settled s (s.perform id e).2 := by
  cases h : e.elapses with
  | false => exact (instant_perform s id h).toSettled
  | true =>
    cases e with
    | elapse span => exact ⟨rfl, rfl, rfl⟩
    | _ => cases h

lemma settled_happen (step : Step τ) : Settled s (s.happen id step) := by
  unfold happen
  induction step generalizing s with
  | nil => exact refl s
  | cons e rest ih => exact IsTrans.trans _ _ _ (settled_perform s id e) (ih _)

lemma instant_happen {step : Step τ} (h : ∀ e ∈ step, e.elapses = false) :
    Instant s (s.happen id step) := by
  unfold happen
  induction step generalizing s with
  | nil => exact refl s
  | cons e rest ih =>
    obtain ⟨he, hrest⟩ := List.forall_mem_cons.mp h
    exact IsTrans.trans _ _ _ (instant_perform s id he) (ih _ hrest)

/-- A pause takes the first of what is due. -/
lemma sleep_settled (span : τ) :
    Settled { s with meanwhile := s.meanwhile.tail } (s.sleep span) := by
  unfold sleep
  dsimp only [note]
  rcases due : s.meanwhile with _ | ⟨⟨id, step⟩, rest⟩
  · exact ⟨rfl, rfl, rfl⟩
  · exact ⟨(settled_happen _ id step).epoch, (settled_happen _ id step).answers,
      (settled_happen _ id step).meanwhile⟩

lemma sleep_patience (span : τ) : (s.sleep span).patience = s.patience :=
  Deeds.patience (Admits.sleep (R := Deeds 0 noRecord) s span)

variable {s}

/-- Only the pause itself lets time pass. -/
lemma Steady.sleep_now (h : s.Steady) (span : τ) :
    (s.sleep span).now = Clock.add s.now span := by
  unfold sleep
  dsimp only [note]
  rcases due : s.meanwhile with _ | ⟨⟨id, step⟩, rest⟩
  · rfl
  · have first : ∀ e ∈ step, e.elapses = false := by
      refine h (id, step) ?_
      rw [due]
      exact List.mem_cons_self
    exact (instant_happen _ id first).now

lemma Steady.sleep (h : s.Steady) (span : τ) : (s.sleep span).Steady := by
  intro entry mem
  rw [(s.sleep_settled span).meanwhile] at mem
  exact h entry (List.mem_of_mem_tail mem)

/-- The stage after so many pauses of one length. -/
def slept (s : Stage τ) (span : τ) (n : Nat) : Stage τ := (·.sleep span)^[n] s

lemma slept_succ (s : Stage τ) (span : τ) (n : Nat) :
    s.slept span (n + 1) = (s.sleep span).slept span n := rfl

lemma slept_last (s : Stage τ) (span : τ) (n : Nat) :
    s.slept span (n + 1) = (s.slept span n).sleep span :=
  Function.iterate_succ_apply' _ n s

lemma slept_add (s : Stage τ) (span : τ) (m n : Nat) :
    (s.slept span m).slept span n = s.slept span (m + n) := by
  rw [slept, slept, slept, Nat.add_comm, Function.iterate_add_apply]

lemma slept_calls (s : Stage τ) (span : τ) (n : Nat) :
    (s.slept span n).calls = s.calls ++ List.replicate n (.sleep span) := by
  induction n with
  | zero => exact (List.append_nil _).symm
  | succ n ih => rw [slept_last, sleep_calls, ih, List.append_assoc, List.replicate_succ']

lemma Steady.slept (h : s.Steady) (span : τ) (n : Nat) : (s.slept span n).Steady := by
  induction n with
  | zero => exact h
  | succ n ih =>
    rw [slept_last]
    exact ih.sleep span

/-- The exact clock shows the sum of the spans. -/
lemma Steady.slept_now {s : Stage ℚ} (h : s.Steady) (span : ℚ) (n : Nat) :
    (s.slept span n).now = s.now + n * span := by
  induction n with
  | zero => rw [Nat.cast_zero, zero_mul, add_zero]; rfl
  | succ n ih =>
    rw [slept_last, (h.slept span n).sleep_now, Clock.add_exact, ih]
    push_cast
    ring

/-- Where nothing is due a pause is nothing but a pause. -/
lemma sleep_undue {s : Stage τ} (undue : s.meanwhile = []) (span : τ) :
    s.sleep span = { s.note (.sleep span) with now := Clock.add s.now span } := by
  unfold sleep
  dsimp only [note]
  rw [undue]

lemma slept_undue {s : Stage τ} (undue : s.meanwhile = []) (span : τ) (n : Nat) :
    ∃ now journal, s.slept span n = { s with now, journal } := by
  induction n with
  | zero => exact ⟨s.now, s.journal, rfl⟩
  | succ n ih =>
    obtain ⟨now, journal, same⟩ := ih
    refine ⟨Clock.add now span, .sleep span :: journal, ?_⟩
    rw [slept_last, same]
    exact sleep_undue (s := { s with now, journal }) undue span

/-! Where time passes by itself as well, what is due decides by how much. -/

lemma slept_meanwhile (s : Stage τ) (span : τ) (n : Nat) :
    (s.slept span n).meanwhile = s.meanwhile.drop n := by
  induction n with
  | zero => rfl
  | succ n ih => rw [slept_last, (sleep_settled _ span).meanwhile, ih, List.tail_drop]

lemma perform_now (s : Stage ℚ) (id : Nat) (e : Effect ℚ) :
    (s.perform id e).2.now = s.now + e.span := by
  cases e with
  | elapse span => rfl
  | _ => exact (instant_perform s id rfl).now.trans (add_zero _).symm

lemma happen_now (s : Stage ℚ) (id : Nat) (step : Step ℚ) :
    (s.happen id step).now = s.now + (step.map (·.span)).sum := by
  unfold happen
  induction step generalizing s with
  | nil => exact (add_zero _).symm
  | cons e rest ih =>
    rw [List.foldl_cons, ih, perform_now, List.map_cons, List.sum_cons, add_assoc]

lemma sleep_due {s : Stage ℚ} {id : Nat} {step : Step ℚ} {rest : List (Nat × Step ℚ)}
    (due : s.meanwhile = (id, step) :: rest) (span : ℚ) :
    (s.sleep span).now = s.now + span + (step.map (·.span)).sum := by
  unfold sleep
  dsimp only [note]
  rw [due]
  exact happen_now _ id step

/-- Pauses of one length add up to any span, whatever is due meanwhile. -/
lemma slept_past {span : ℚ} (positive : 0 < span) (due : List (Nat × Step ℚ)) (window : ℚ) :
    ∃ n, ∀ s : Stage ℚ, s.meanwhile = due → s.now + window ≤ (s.slept span n).now := by
  induction due generalizing window with
  | nil =>
    refine ⟨⌈window / span⌉₊, fun s none => ?_⟩
    have steady : s.Steady := by
      unfold Steady
      rw [none]
      nofun
    rw [steady.slept_now]
    exact add_le_add_right ((div_le_iff₀ positive).mp (Nat.le_ceil _)) _
  | cons entry rest ih =>
    obtain ⟨id, step⟩ := entry
    obtain ⟨n, later⟩ := ih (window - span - (step.map (·.span)).sum)
    refine ⟨n + 1, fun s due => ?_⟩
    have reached := later (s.sleep span) (by rw [(s.sleep_settled span).meanwhile, due]; rfl)
    rw [sleep_due due] at reached
    calc s.now + window
        = s.now + span + (step.map (·.span)).sum +
            (window - span - (step.map (·.span)).sum) := by ring
      _ ≤ (s.slept span (n + 1)).now := reached

end Stage
end Rehearsal
