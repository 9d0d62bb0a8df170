import Mathlib.Order.Defs.Unbundled
import Mathlib.Tactic.Lemma
import Rehearsal.Play

/-!
# Plays that stay within a relation

A play stays within a relation when the stage it leaves is related to the one it
found, however it ends. The same judgement says when a play may fail to end at all.
Relations are transitive, so plays that stay within one can follow each other.
-/

namespace Rehearsal.Play

variable {τ α β : Type}

/-- The stage left is related to the stage found, and only under `E` is there no end. -/
def Within (R : Stage τ → Stage τ → Prop) (E : Prop) (p : Play τ α) : Prop :=
  ∀ s, R s (p s).2 ∧ ((p s).1 = .endless → E)

/-- The same for a play from one stage. -/
def WithinAt (R : Stage τ → Stage τ → Prop) (E : Prop) (p : Play τ α) (s : Stage τ) : Prop :=
  R s (p s).2 ∧ ((p s).1 = .endless → E)

namespace WithinAt

variable {R : Stage τ → Stage τ → Prop} {E : Prop} {p : Play τ α} {s : Stage τ}

lemma attempt (hp : WithinAt R E p s) : WithinAt R E (Play.attempt p) s := by
  obtain ⟨hs, he⟩ := hp
  unfold WithinAt Play.attempt
  rcases hps : p s with ⟨_ | _ | _, t⟩ <;> rw [hps] at hs he
  · exact ⟨hs, fun h => by cases h⟩
  · exact ⟨hs, fun h => by cases h⟩
  · exact ⟨hs, fun _ => he rfl⟩

lemma bind [IsTrans (Stage τ) R] {f : α → Play τ β} (hp : WithinAt R E p s)
    (hf : ∀ a t, WithinAt R E (f a) t) : WithinAt R E (p >>= f) s := by
  obtain ⟨hs, he⟩ := hp
  unfold WithinAt
  rcases hps : p s with ⟨a | e | _, t⟩ <;> rw [hps] at hs he
  · rw [bind_done hps]
    exact ⟨IsTrans.trans _ _ _ hs (hf a t).1, (hf a t).2⟩
  · rw [bind_failed hps]
    exact ⟨hs, fun h => by cases h⟩
  · rw [bind_endless hps]
    exact ⟨hs, fun _ => he rfl⟩

end WithinAt

namespace Within

variable {R : Stage τ → Stage τ → Prop} {E : Prop}

lemma stage {p : Play τ α} (hp : Within R E p) {s t : Stage τ} {e : Ending α}
    (h : p s = (e, t)) : R s t := by
  have hs := (hp s).1
  rwa [h] at hs

lemma ends {p : Play τ α} (hp : Within R False p) (s : Stage τ) : (p s).1 ≠ .endless :=
  (hp s).2

lemma mono {Q : Stage τ → Stage τ → Prop} {D : Prop} {p : Play τ α} (hp : Within R E p)
    (hR : ∀ s t, R s t → Q s t) (hE : E → D) : Within Q D p :=
  fun s => ⟨hR _ _ (hp s).1, fun h => hE ((hp s).2 h)⟩

lemma change {f : Stage τ → Stage τ} (hf : ∀ s, R s (f s)) : Within R E (Play.change f) :=
  fun s => ⟨hf s, fun h => by cases h⟩

lemma attempt {p : Play τ α} (hp : Within R E p) : Within R E (Play.attempt p) :=
  fun s => WithinAt.attempt (hp s)

/-- An attempt never fails, so with an end in sight it is done. -/
lemma attempt_done {p : Play τ α} (hp : Within R False p) (s : Stage τ) :
    ∃ r t, Play.attempt p s = (.done r, t) := by
  rcases h : p s with ⟨a | f | _, t⟩
  · exact ⟨_, t, Play.attempt_done h⟩
  · exact ⟨_, t, Play.attempt_failed h⟩
  · exact absurd (congrArg Prod.fst h) (hp.ends s)

section Reflexive

variable [Std.Refl R]

lemma pure (a : α) : Within R E (Pure.pure a : Play τ α) :=
  fun s => ⟨refl s, fun h => by cases h⟩

lemma fail (f : Failure) : Within R E (Play.fail f : Play τ α) :=
  fun s => ⟨refl s, fun h => by cases h⟩

lemma look (f : Stage τ → α) : Within R E (Play.look f) :=
  fun s => ⟨refl s, fun h => by cases h⟩

lemma ofExcept (r : Except Failure α) : Within R E (Play.ofExcept r) := by
  cases r with
  | ok a => exact pure a
  | error f => exact fail f

lemma moment [Clock τ] : Within R E (Play.moment : Play τ Moment) := by
  intro s
  unfold Play.moment
  split <;> exact ⟨refl s, fun h => by cases h⟩

end Reflexive

section Transitive

variable [IsTrans (Stage τ) R]

lemma bind {p : Play τ α} {f : α → Play τ β} (hp : Within R E p)
    (hf : ∀ a, Within R E (f a)) : Within R E (p >>= f) :=
  fun s => WithinAt.bind (hp s) hf

lemma orElse [Std.Refl R] {p : Play τ α} {handler : Failure → Play τ α} (hp : Within R E p)
    (hh : ∀ f, Within R E (handler f)) : Within R E (Play.orElse p handler) := by
  refine bind hp.attempt fun r => ?_
  cases r with
  | ok a => exact pure a
  | error f => exact hh f

lemma examine [Std.Refl R] (f : Stage τ → Except Failure α) : Within R E (Play.examine f) :=
  bind (look f) ofExcept

end Transitive

end Within

end Rehearsal.Play
