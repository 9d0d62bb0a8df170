import Rehearsal.Proofs.SingleClick

/-!
# The course of a click

A click is a course of attempts and, once the last of them has failed, a ladder of fallbacks.
Between two attempts there are a pause, one reload and another pause, whatever becomes of the
reload; no attempt and no fallback reloads by itself, so the reloads of a click count its
attempts. A fallback that finds nothing or fails gives way to the next one. Each course
determines the play, so an element is not found exactly when all of this has failed.
-/

namespace Rehearsal

open Play

variable {τ α : Type}

/-- Calls that reload a page. -/
def Call.isReload : Call τ → Bool
  | .page _ .reload => true
  | _ => false

/-- The calls of an attempt: no page is reloaded. -/
def Call.Staying (c : Call τ) : Prop := c.isReload = false

/-- The calls of a fallback: no page is reloaded and no pause is made. -/
def Call.Steady (c : Call τ) : Prop := c.isReload = false ∧ c.isPause = false

/-- What a call enters in a field. -/
def Call.entered : Call τ → Option String
  | .page _ (.fill _ value _) | .locator _ _ (.fill value _) => some value
  | _ => none

/-- Calls that enter nothing. -/
def Call.Silent (c : Call τ) : Prop := c.entered = none

/-- The calls of a direct click and of a fallback: nothing is entered either. -/
def Call.Reaching (c : Call τ) : Prop := c.Steady ∧ c.Silent

variable [Clock τ]

/-- From one stage to another by nothing but allowed calls. -/
def Stage.Using (allowed : Call τ → Prop) (s t : Stage τ) : Prop :=
  ∃ log, Exchanged s log t ∧ ∀ x ∈ log, allowed x.call

namespace Play.Within

variable {allowed : Call τ → Prop} {E : Prop}

instance : Std.Refl (Stage.Using allowed) where
  refl s := ⟨[], .none s, nofun⟩

instance : IsTrans (Stage τ) (Stage.Using allowed) where
  trans := by
    rintro s t u ⟨log, h, keeps⟩ ⟨more, k, goes⟩
    refine ⟨log ++ more, h.trans k, fun x hx => ?_⟩
    rcases List.mem_append.mp hx with hx | hx
    · exact keeps x hx
    · exact goes x hx

/-- A play with fewer calls. -/
lemma using_mono {fewer : Call τ → Prop} {p : Play τ α} (hp : Within (Stage.Using fewer) E p)
    (ok : ∀ c, fewer c → allowed c) : Within (Stage.Using allowed) E p :=
  hp.mono (fun _ _ ⟨log, made, keeps⟩ => ⟨log, made, fun x hx => ok _ (keeps x hx)⟩) id

lemma asks {c : Call τ} {p : Play τ α} (h : Target.Asks c p) (ok : allowed c) :
    Within (Stage.Using allowed) E p := by
  intro s
  refine ⟨⟨_, .call h (.none _), fun x hx => ?_⟩, fun endless => absurd endless (h.made s).2⟩
  rw [List.mem_singleton.mp hx]
  exact ok

lemma pauses (span : τ) (ok : allowed (.sleep span)) :
    Within (Stage.Using allowed) E (Play.pause span) := by
  unfold Play.pause
  split
  · refine .change fun s => ⟨_, .pause span (.none _), fun x hx => ?_⟩
    rw [List.mem_singleton.mp hx]
    exact ok
  · exact .pure ()

end Play.Within

namespace Target

variable {E : Prop}

lemma signIn_stays (a : AccountChooser) (submitDelay : τ) (page : Nat) (c : Click) :
    Within (Stage.Using Call.Staying) E (signIn a submitDelay page c) := by
  unfold signIn
  split
  · exact .pure false
  · refine .bind (.examine _) fun login => ?_
    split
    · exact .pure false
    · refine .bind (.asks (.count page _) rfl) fun fields => ?_
      split
      · exact .pure false
      · refine .bind (.asks (.fillLocated page _ _ _) rfl) fun _ => .bind (.pauses _ rfl) fun _ =>
          .bind (.asks (.count page _) rfl) fun buttons => ?_
        split
        · exact .pure false
        · exact .bind (.asks (.clickLocated page _ _) rfl) fun _ => .pure true

lemma ownClick_stays {sites : List Site} {page : Nat} {c : Click} {s : Stage Float}
    {way : Play Float Bool} (h : ownClick sites page c s = .ok way) :
    Within (Stage.Using Call.Staying) E way := by
  obtain rfl | ⟨a, -, rfl⟩ := ownClick_cases h
  · exact .pure false
  · exact signIn_stays a _ page c

lemma directClick_reaches (plan : ClickPlan τ) (page : Nat) (c : Click) :
    Within (Stage.Using Call.Reaching) E (directClick plan page c) :=
  .bind (.asks (.waitForSelector page _ _) ⟨⟨rfl, rfl⟩, rfl⟩) fun _ =>
    .asks (.click page _ _) ⟨⟨rfl, rfl⟩, rfl⟩

lemma tryClick_stays (plan : ClickPlan τ) {own : Play τ Bool}
    (ho : Within (Stage.Using Call.Staying) E own) (page : Nat) (c : Click) :
    Within (Stage.Using Call.Staying) E (tryClick plan own page c) := by
  refine .bind ho fun clicked => ?_
  split
  · exact .pure ()
  · exact (directClick_reaches plan page c).using_mono fun _ reaches => reaches.1.1

lemma clickContaining_reaches (timeout : Int) (page : Nat) (text : String) (ls : List Locator) :
    Within (Stage.Using Call.Reaching) E (clickContaining timeout page text ls : Play τ Bool) := by
  induction ls with
  | nil => exact .pure false
  | cons l rest ih =>
    refine .bind (.asks (.textOf page l) ⟨⟨rfl, rfl⟩, rfl⟩) fun content => ?_
    dsimp only
    split
    · exact .bind (.asks (.clickLocated page l _) ⟨⟨rfl, rfl⟩, rfl⟩) fun _ => .pure true
    · exact ih

lemma tryFallback_reaches (timeout : Int) (page : Nat) (f : Fallback) :
    Within (Stage.Using Call.Reaching) E (tryFallback timeout page f : Play τ Bool) := by
  unfold tryFallback
  split
  · unfold scan
    split
    · exact .pure false
    · exact .bind (.asks (.all page _) ⟨⟨rfl, rfl⟩, rfl⟩) fun ls =>
        clickContaining_reaches _ page _ ls
  · refine .bind (.asks (.count page _) ⟨⟨rfl, rfl⟩, rfl⟩) fun n => ?_
    split
    · exact .pure false
    · exact .bind (.asks (.clickLocated page _ _) ⟨⟨rfl, rfl⟩, rfl⟩) fun _ => .pure true

lemma tryFallback_steady (timeout : Int) (page : Nat) (f : Fallback) :
    Within (Stage.Using Call.Steady) E (tryFallback timeout page f : Play τ Bool) :=
  (tryFallback_reaches timeout page f).using_mono fun _ reaches => reaches.1

section Attempts

variable (plan : ClickPlan τ) (own : Stage τ → Except Failure (Play τ Bool)) (page : Nat)
  (c : Click)

/-- One attempt, its ending and its calls; it does not reload the page. -/
structure Tried (s : Stage τ) (e : Ending Unit) (log : List (Exchange τ)) (t : Stage τ) :
    Prop where
  ran : ∃ way, own s = .ok way ∧ tryClick plan way page c s = (e, t)
  made : Exchanged s log t
  stays : ∀ x ∈ log, x.call.Staying

/-- What is done between two attempts, whether or not the reload works. -/
def between (worked : Bool) : List (Exchange τ) :=
  [⟨.sleep plan.retryDelay, true⟩, ⟨.page page .reload, worked⟩, ⟨.sleep plan.settleDelay, true⟩]

/-- A course of attempts when there may still be so many: how many are made, what they come to and
their calls. They come to the failure of the last one if none has clicked; and they end at once
on a page that cannot be asked for its site. -/
inductive Attempts : Nat → Stage τ → Nat → Ending (Option Failure) → List (Exchange τ) →
    Stage τ → Prop
  | clicked {left : Nat} {s t : Stage τ} {log : List (Exchange τ)}
      (tried : Tried plan own page c s (.done ()) log t) :
      Attempts (left + 1) s 1 (.done none) log t
  | last {s t : Stage τ} {f : Failure} {log : List (Exchange τ)}
      (tried : Tried plan own page c s (.failed f) log t) :
      Attempts 1 s 1 (.done (some f)) log t
  | again {left made : Nat} {s t u v : Stage τ} {f : Failure} {e : Ending (Option Failure)}
      {log more : List (Exchange τ)} {worked : Bool}
      (tried : Tried plan own page c s (.failed f) log t)
      (refreshed : refresh plan page t = (.done (), u))
      (meanwhile : Exchanged t (between plan page worked) u)
      (later : Attempts (left + 1) u made e more v) :
      Attempts (left + 2) s (made + 1) e (log ++ (between plan page worked ++ more)) v
  | unasked {left : Nat} {s : Stage τ} {f : Failure} (lost : own s = .error f) :
      Attempts (left + 1) s 0 (.failed f) [] s

end Attempts

section Ladder

variable (timeout : Int) (page : Nat)

/-- A way down a ladder of fallbacks: the ones that are tried, whether the last of them has
clicked, and the calls. One that matches nothing or fails gives way to the next. -/
inductive Ladder : List Fallback → Stage τ → List Fallback → Bool → List (Exchange τ) →
    Stage τ → Prop
  | bottom (s : Stage τ) : Ladder [] s [] false [] s
  | clicked {f : Fallback} {rest : List Fallback} {s t : Stage τ} {log : List (Exchange τ)}
      (hit : tryFallback timeout page f s = (.done true, t)) (made : Exchanged s log t)
      (steady : ∀ x ∈ log, x.call.Steady) : Ladder (f :: rest) s [f] true log t
  | passed {f : Fallback} {rest tried : List Fallback} {s t u : Stage τ} {e : Ending Bool}
      {hit : Bool} {log more : List (Exchange τ)} (ran : tryFallback timeout page f s = (e, t))
      (misses : e = .done false ∨ ∃ g, e = .failed g) (made : Exchanged s log t)
      (steady : ∀ x ∈ log, x.call.Steady) (later : Ladder rest t tried hit more u) :
      Ladder (f :: rest) s (f :: tried) hit (log ++ more) u

end Ladder

/-- How many of these calls reload a page. -/
def reloads (log : List (Exchange τ)) : Nat := log.countP (·.call.isReload)

omit [Clock τ] in
lemma reloads_append (log more : List (Exchange τ)) :
    reloads (log ++ more) = reloads log + reloads more := List.countP_append ..

omit [Clock τ] in
lemma reloads_of_staying {log : List (Exchange τ)} (h : ∀ x ∈ log, x.call.Staying) :
    reloads log = 0 := by
  refine List.countP_eq_zero.mpr fun x hx reload => ?_
  rw [h x hx] at reload
  cases reload

omit [Clock τ] in
lemma reloads_between (plan : ClickPlan τ) (page : Nat) (worked : Bool) :
    reloads (between plan page worked) = 1 := rfl

namespace Attempts

variable {plan : ClickPlan τ} {own : Stage τ → Except Failure (Play τ Bool)} {page : Nat}
  {c : Click} {left made : Nat} {s t : Stage τ} {e : Ending (Option Failure)}
  {log : List (Exchange τ)}

lemma exchanged (h : Attempts plan own page c left s made e log t) : Exchanged s log t := by
  induction h with
  | clicked tried => exact tried.made
  | last tried => exact tried.made
  | again tried _ meanwhile _ ih => exact tried.made.trans (meanwhile.trans ih)
  | unasked _ => exact .none _

lemma made_le (h : Attempts plan own page c left s made e log t) : made ≤ left := by
  induction h with
  | clicked _ => omega
  | last _ => omega
  | again _ _ _ _ ih => omega
  | unasked _ => omega

/-- Only the failure of the last attempt is told. -/
lemma made_eq (h : Attempts plan own page c left s made e log t) {f : Failure}
    (failed : e = .done (some f)) : made = left := by
  induction h with
  | clicked _ => cases failed
  | last _ => rfl
  | again _ _ _ _ ih => rw [ih failed]
  | unasked _ => cases failed

lemma ends (h : Attempts plan own page c left s made e log t) : e ≠ .endless := by
  induction h with
  | again _ _ _ _ ih => exact ih
  | _ => exact nofun

/-- There is one reload before each attempt but the first. -/
lemma reloads_eq (h : Attempts plan own page c left s made e log t) {r : Option Failure}
    (done : e = .done r) : reloads log + 1 = made := by
  induction h with
  | clicked tried => rw [reloads_of_staying tried.stays]
  | last tried => rw [reloads_of_staying tried.stays]
  | again tried _ _ _ ih =>
    rw [reloads_append, reloads_append, reloads_of_staying tried.stays, reloads_between, ← ih done]
    omega
  | unasked _ => cases done

/-- One attempt more: what follows it depends on whether it fails and is the last. -/
lemma step {way : Play τ Bool} (known : own s = .ok way) {r : Except Failure Unit}
    (tried : attempt (tryClick plan way page c) s = (.done r, t)) :
    attempts plan own page c (left + 1) s =
      (match r with
      | .ok () => Pure.pure none
      | .error f => if left = 0 then Pure.pure (some f) else do
        refresh plan page
        attempts plan own page c left : Play τ (Option Failure)) t := by
  rw [attempts, bind_done (examine_ok known), bind_done tried]
  rcases r with f | ⟨⟩ <;> rfl

/-- A course determines the play. -/
lemma run (h : Attempts plan own page c left s made e log t) :
    attempts plan own page c left s = (e, t) := by
  induction h with
  | clicked tried =>
    obtain ⟨way, known, ran⟩ := tried.ran
    exact step known (attempt_done ran)
  | last tried =>
    obtain ⟨way, known, ran⟩ := tried.ran
    exact step known (attempt_failed ran)
  | again tried refreshed _ _ ih =>
    obtain ⟨way, known, ran⟩ := tried.ran
    exact (step known (attempt_failed ran)).trans ((bind_done refreshed).trans ih)
  | unasked lost => exact bind_failed (examine_error lost)

end Attempts

lemma refresh_made (plan : ClickPlan τ) (page : Nat) (s : Stage τ) : ∃ worked t,
    refresh plan page s = (.done (), t) ∧ Exchanged s (between plan page worked) t := by
  have asked : Asks (.page page .reload) (Browser.reload page : Play τ Unit) := .reload page
  obtain ⟨worked, reloaded⟩ := Browser.succeeds_run (asked.made (s.sleep plan.retryDelay)).2
  refine ⟨_, _, ?_, .pause _ (.call asked (.pause _ (.none _)))⟩
  calc refresh plan page s
    _ = (do
        let _ ← Browser.safeReload page
        Play.sleep plan.settleDelay : Play τ Unit) (s.sleep plan.retryDelay) := bind_done rfl
    _ = Play.sleep plan.settleDelay _ := bind_done reloaded

/-- An attempt clicks or fails, unless the page cannot be asked for its site. -/
lemma tries (plan : ClickPlan τ) {own : Stage τ → Except Failure (Play τ Bool)}
    (ho : ∀ s way, own s = .ok way → Within (Stage.Using Call.Staying) False way) (page : Nat)
    (c : Click) (s : Stage τ) : (∃ f, own s = .error f) ∨
      (∃ log t, Tried plan own page c s (.done ()) log t) ∨
      ∃ f log t, Tried plan own page c s (.failed f) log t := by
  rcases known : own s with f | way
  · exact .inl ⟨f, rfl⟩
  · obtain ⟨⟨log, made, stays⟩, ends⟩ := tryClick_stays plan (ho s way known) page c s
    rcases ran : tryClick plan way page c s with ⟨⟨⟩ | f | _, t⟩ <;> rw [ran] at made ends
    · exact .inr (.inl ⟨log, t, ⟨way, known, ran⟩, made, stays⟩)
    · exact .inr (.inr ⟨f, log, t, ⟨way, known, ran⟩, made, stays⟩)
    · exact (ends rfl).elim

/-- Attempts take one of these courses. -/
lemma attempts_course (plan : ClickPlan τ) {own : Stage τ → Except Failure (Play τ Bool)}
    (ho : ∀ s way, own s = .ok way → Within (Stage.Using Call.Staying) False way) (page : Nat)
    (c : Click) (left : Nat) (s : Stage τ) :
    ∃ made e log t, Attempts plan own page c (left + 1) s made e log t := by
  induction left generalizing s with
  | zero =>
    obtain ⟨f, lost⟩ | ⟨log, t, tried⟩ | ⟨f, log, t, tried⟩ := tries plan ho page c s
    · exact ⟨_, _, _, _, .unasked lost⟩
    · exact ⟨_, _, _, _, .clicked tried⟩
    · exact ⟨_, _, _, _, .last tried⟩
  | succ left ih =>
    obtain ⟨f, lost⟩ | ⟨log, t, tried⟩ | ⟨f, log, t, tried⟩ := tries plan ho page c s
    · exact ⟨_, _, _, _, .unasked lost⟩
    · exact ⟨_, _, _, _, .clicked tried⟩
    · obtain ⟨worked, u, refreshed, meanwhile⟩ := refresh_made plan page t
      obtain ⟨_, _, _, _, later⟩ := ih u
      exact ⟨_, _, _, _, .again tried refreshed meanwhile later⟩

namespace Ladder

variable {timeout : Int} {page : Nat} {fs tried : List Fallback} {s t : Stage τ} {hit : Bool}
  {log : List (Exchange τ)}

lemma exchanged (h : Ladder timeout page fs s tried hit log t) : Exchanged s log t := by
  induction h with
  | bottom s => exact .none s
  | clicked _ made _ => exact made
  | passed _ _ made _ _ ih => exact made.trans ih

lemma steady (h : Ladder timeout page fs s tried hit log t) : ∀ x ∈ log, x.call.Steady := by
  induction h with
  | bottom => exact nofun
  | clicked _ _ steady => exact steady
  | passed _ _ _ steady _ ih =>
    intro x hx
    rcases List.mem_append.mp hx with hx | hx
    · exact steady x hx
    · exact ih x hx

lemma tried_prefix (h : Ladder timeout page fs s tried hit log t) : tried <+: fs := by
  induction h with
  | bottom => exact List.nil_prefix
  | clicked _ _ _ => exact List.cons_prefix_cons.mpr ⟨rfl, List.nil_prefix⟩
  | passed _ _ _ _ _ ih => exact List.cons_prefix_cons.mpr ⟨rfl, ih⟩

/-- Without a click there are no fallbacks left. -/
lemma tried_eq (h : Ladder timeout page fs s tried false log t) : tried = fs := by
  generalize hm : false = missed at h
  induction h with
  | bottom => rfl
  | clicked _ _ _ => cases hm
  | passed _ _ _ _ _ ih => rw [ih hm]

/-- A way down determines the play. -/
lemma run (h : Ladder timeout page fs s tried hit log t) :
    tryFallbacks timeout page fs s = (.done hit, t) := by
  induction h with
  | bottom => rfl
  | clicked ran _ _ => exact bind_done (attempt_done ran)
  | passed ran misses _ _ _ ih =>
    rcases misses with rfl | ⟨g, rfl⟩
    · exact (bind_done (attempt_done ran)).trans ih
    · exact (bind_done (attempt_failed ran)).trans ih

end Ladder

/-- Fallbacks are tried in one of these ways. -/
lemma tryFallbacks_course (timeout : Int) (page : Nat) (fs : List Fallback) (s : Stage τ) :
    ∃ tried hit log t, Ladder timeout page fs s tried hit log t := by
  induction fs generalizing s with
  | nil => exact ⟨_, _, _, _, .bottom s⟩
  | cons f rest ih =>
    obtain ⟨⟨log, made, steady⟩, ends⟩ :=
      tryFallback_steady (E := False) timeout page f s
    rcases ran : tryFallback timeout page f s with ⟨b | g | _, t⟩ <;> rw [ran] at made ends
    · cases b with
      | true => exact ⟨_, _, _, _, .clicked ran made steady⟩
      | false =>
        obtain ⟨_, _, _, _, later⟩ := ih t
        exact ⟨_, _, _, _, .passed ran (.inl rfl) made steady later⟩
    · obtain ⟨_, _, _, _, later⟩ := ih t
      exact ⟨_, _, _, _, .passed ran (.inr ⟨g, rfl⟩) made steady later⟩
    · exact (ends rfl).elim

/-- Attempts themselves fail only on an address that is no text. -/
lemma Attempts.unsearchable {plan : ClickPlan Float} {sites : List Site} {page : Nat} {c : Click}
    {left made : Nat} {s t : Stage Float} {f : Failure} {log : List (Exchange Float)}
    (h : Attempts plan (ownClick sites page c) page c left s made (.failed f) log t) :
    Address.Unsearchable (t.url page) f := by
  generalize hm : Ending.failed f = e at h
  induction h with
  | clicked _ => cases hm
  | last _ => cases hm
  | again _ _ _ _ ih => exact ih hm
  | unasked lost =>
    cases hm
    exact ownClick_error lost

section Course

variable (plan : ClickPlan Float) (sites : List Site) (page : Nat) (c : Click) (s : Stage Float)

/-- The element is nowhere: the failure tells of the last attempt. -/
def nowhere (f : Failure) : Failure :=
  .engine (.elementNotFound c.xpath ("Element not found after " ++ toString plan.rounds ++
    " attempts: " ++ c.xpath ++ " (" ++ f.message ++ ")"))

/-- All attempts have failed, the last one with `f`, and left `t`, where these are the fallbacks. -/
structure Thwarted (f : Failure) (log : List (Exchange Float)) (t : Stage Float) (hints : Hints) :
    Prop where
  attempts : Attempts plan (ownClick sites page c) page c plan.rounds s plan.rounds
    (.done (some f)) log t
  resolved : c.resolveHints sites (t.url page) = .ok hints

/-- The course of a click: how many attempts it makes, which fallbacks it tries, how it ends and
its calls. -/
inductive Course : Nat → List Fallback → Ending Unit → List (Exchange Float) → Stage Float → Prop
  | clicked {made : Nat} {log : List (Exchange Float)} {t : Stage Float}
      (attempts : Attempts plan (ownClick sites page c) page c plan.rounds s made
        (.done none) log t) : Course made [] (.done ()) log t
  | fellBack {f : Failure} {log more : List (Exchange Float)} {t u : Stage Float} {hints : Hints}
      {tried : List Fallback} (thwarted : Thwarted plan sites page c s f log t hints)
      (ladder : Ladder plan.clickTimeout page (hints.fallbacks c.xpath) t tried true more u) :
      Course plan.rounds tried (.done ()) (log ++ more) u
  | nowhere {f : Failure} {log more : List (Exchange Float)} {t u : Stage Float} {hints : Hints}
      (thwarted : Thwarted plan sites page c s f log t hints)
      (ladder : Ladder plan.clickTimeout page (hints.fallbacks c.xpath) t
        (hints.fallbacks c.xpath) false more u) :
      Course plan.rounds (hints.fallbacks c.xpath) (.failed (nowhere plan c f)) (log ++ more) u
  | unasked {made : Nat} {f : Failure} {log : List (Exchange Float)} {t : Stage Float}
      (attempts : Attempts plan (ownClick sites page c) page c plan.rounds s made (.failed f) log t)
      (untext : Address.Unsearchable (t.url page) f) : Course made [] (.failed f) log t
  | unresolved {f g : Failure} {log : List (Exchange Float)} {t : Stage Float}
      (attempts : Attempts plan (ownClick sites page c) page c plan.rounds s plan.rounds
        (.done (some f)) log t)
      (lost : c.resolveHints sites (t.url page) = .error g)
      (untext : Address.Unsearchable (t.url page) g) : Course plan.rounds [] (.failed g) log t

end Course

/-- Which fallbacks there are depends on the attributes and the text of the hints. -/
lemma fallbacks_names (h : Hints) (expression : String) :
    (h.fallbacks expression).map Fallback.name = "selector" ::
      ((if h.attributes = [] then [] else ["attributes"]) ++
        if h.text.getD "" = "" then [] else ["text", "scan"]) := by
  unfold Hints.fallbacks
  rw [List.cons_append, List.map_cons, List.map_append, apply_ite (List.map Fallback.name),
    apply_ite (List.map Fallback.name)]
  simp only [List.isEmpty_iff]
  rfl

/-- The fallbacks stand in one order, none of them twice. -/
lemma fallbacks_ordered (h : Hints) (expression : String) :
    ((h.fallbacks expression).map Fallback.name).Sublist
      ["selector", "attributes", "text", "scan"] := by
  rw [fallbacks_names]
  split <;> split <;> decide

namespace Course

variable {plan : ClickPlan Float} {sites : List Site} {page : Nat} {c : Click} {s t : Stage Float}
  {made : Nat} {tried : List Fallback} {e : Ending Unit} {log : List (Exchange Float)}

/-- A course determines the click. -/
lemma run (h : Course plan sites page c s made tried e log t) :
    click plan sites page c s = (e, t) := by
  unfold click clickWith
  cases h with
  | clicked attempts => exact bind_done attempts.run
  | fellBack thwarted ladder =>
    rw [bind_done thwarted.attempts.run]
    exact (bind_done (examine_ok thwarted.resolved)).trans (bind_done ladder.run)
  | nowhere thwarted ladder =>
    rw [bind_done thwarted.attempts.run]
    exact (bind_done (examine_ok thwarted.resolved)).trans (bind_done ladder.run)
  | unasked attempts _ => exact bind_failed attempts.run
  | unresolved attempts lost _ =>
    rw [bind_done attempts.run]
    exact bind_failed (examine_error lost)

lemma exchanged (h : Course plan sites page c s made tried e log t) : Exchanged s log t := by
  cases h with
  | clicked attempts => exact attempts.exchanged
  | fellBack thwarted ladder => exact thwarted.attempts.exchanged.trans ladder.exchanged
  | nowhere thwarted ladder => exact thwarted.attempts.exchanged.trans ladder.exchanged
  | unasked attempts _ => exact attempts.exchanged
  | unresolved attempts _ _ => exact attempts.exchanged

lemma made_le (h : Course plan sites page c s made tried e log t) : made ≤ plan.rounds := by
  cases h with
  | clicked attempts => exact attempts.made_le
  | unasked attempts _ => exact attempts.made_le
  | _ => exact Nat.le_refl _

/-- Nothing follows fewer attempts: the last of them has clicked. -/
lemma fewer (h : Course plan sites page c s made tried e log t) (few : made < plan.rounds) :
    tried = [] ∧ (e = .done () ∨ ∃ f, e = .failed f ∧ Address.Unsearchable (t.url page) f) := by
  cases h with
  | clicked _ => exact ⟨rfl, .inl rfl⟩
  | unasked _ untext => exact ⟨rfl, .inr ⟨_, rfl, untext⟩⟩
  | _ => exact absurd few (Nat.lt_irrefl _)

/-- Attempts and fallbacks do not reload, so there is one reload less than there are attempts. -/
lemma reloads_eq (h : Course plan sites page c s made tried e log t) :
    reloads log + 1 = made ∨ ∃ f, e = .failed f ∧ Address.Unsearchable (t.url page) f := by
  have quiet {fs : List Fallback} {hit : Bool} {t u : Stage Float} {more : List (Exchange Float)}
      (ladder : Ladder plan.clickTimeout page fs t tried hit more u) : reloads more = 0 :=
    reloads_of_staying fun x hx => (ladder.steady x hx).1
  cases h with
  | clicked attempts => exact .inl (attempts.reloads_eq rfl)
  | fellBack thwarted ladder =>
    rw [reloads_append, quiet ladder]
    exact .inl (thwarted.attempts.reloads_eq rfl)
  | nowhere thwarted ladder =>
    rw [reloads_append, quiet ladder]
    exact .inl (thwarted.attempts.reloads_eq rfl)
  | unasked _ untext => exact .inr ⟨_, rfl, untext⟩
  | unresolved attempts _ _ => exact .inl (attempts.reloads_eq rfl)

lemma tried_ordered (h : Course plan sites page c s made tried e log t) :
    (tried.map Fallback.name).Sublist ["selector", "attributes", "text", "scan"] := by
  have ordered {hints : Hints} (h : tried <+: hints.fallbacks c.xpath) :
      (tried.map Fallback.name).Sublist ["selector", "attributes", "text", "scan"] :=
    (h.sublist.map _).trans (fallbacks_ordered hints c.xpath)
  cases h with
  | fellBack _ ladder => exact ordered ladder.tried_prefix
  | nowhere _ ladder => exact ordered ladder.tried_prefix
  | _ => exact List.nil_sublist _

/-- An element is not found only after everything else. -/
lemma thwarted {message : String} (h : Course plan sites page c s made tried
      (.failed (.engine (.elementNotFound c.xpath message))) log t) :
    ∃ f before u hints after v, Thwarted plan sites page c s f before u hints ∧
      Ladder plan.clickTimeout page (hints.fallbacks c.xpath) u
        (hints.fallbacks c.xpath) false after v := by
  cases h with
  | nowhere thwarted ladder => exact ⟨_, _, _, _, _, _, thwarted, ladder⟩
  | unasked _ untext => cases untext.failure
  | unresolved _ _ untext => cases untext.failure

end Course

/-- Each click takes a course. -/
lemma click_course (plan : ClickPlan Float) (sites : List Site) (page : Nat) (c : Click)
    (s : Stage Float) : ∃ made tried e log t, Course plan sites page c s made tried e log t := by
  obtain ⟨more, rounds⟩ : ∃ more, plan.rounds = more + 1 :=
    Nat.exists_eq_add_of_le' (Nat.le_max_left 1 _)
  obtain ⟨made, e, log, t, attempts⟩ :=
    attempts_course plan (fun _ _ => ownClick_stays) page c more s
  rw [← rounds] at attempts
  rcases e with ⟨_ | f⟩ | f | _
  · exact ⟨_, _, _, _, _, .clicked attempts⟩
  · obtain rfl := attempts.made_eq rfl
    rcases resolved : c.resolveHints sites (t.url page) with g | hints
    · exact ⟨_, _, _, _, _, .unresolved attempts resolved (resolveHints_error resolved)⟩
    · obtain ⟨tried, hit, _, _, ladder⟩ :=
        tryFallbacks_course plan.clickTimeout page (hints.fallbacks c.xpath) t
      cases hit with
      | true => exact ⟨_, _, _, _, _, .fellBack ⟨attempts, resolved⟩ ladder⟩
      | false =>
        obtain rfl := ladder.tried_eq
        exact ⟨_, _, _, _, _, .nowhere ⟨attempts, resolved⟩ ladder⟩
  · exact ⟨_, _, _, _, _, .unasked attempts attempts.unsearchable⟩
  · exact absurd rfl attempts.ends

/-- A click makes as many attempts as its plan has rounds, at most: between two of them the page is
reloaded once, with a pause before and a pause after, and fewer are made only when the last one has
clicked. After as many failures the fallbacks of the resolved hints are tried in order, each at
most once, up to the first that clicks; one that matches nothing or fails gives way to the next.
The element is not found exactly when all of the attempts and all of the fallbacks have failed.
Only an address that is no text, which cannot be asked for its site, ends this early. -/
theorem click_scheduled (plan : ClickPlan Float) (sites : List Site) (page : Nat) (c : Click)
    (s : Stage Float) : (plan.rounds : Int) = max 1 plan.attempts ∧
      (∀ h : Hints, (h.fallbacks c.xpath).map Fallback.name = "selector" ::
        ((if h.attributes = [] then [] else ["attributes"]) ++
          if h.text.getD "" = "" then [] else ["text", "scan"])) ∧
      ∃ made tried e t log, click plan sites page c s = (e, t) ∧
        t.calls = s.calls ++ log.map (·.call) ∧
        Course plan sites page c s made tried e log t ∧ made ≤ plan.rounds ∧
        (made < plan.rounds → tried = [] ∧
          (e = .done () ∨ ∃ f, e = .failed f ∧ Address.Unsearchable (t.url page) f)) ∧
        (reloads log + 1 = made ∨ ∃ f, e = .failed f ∧ Address.Unsearchable (t.url page) f) ∧
        (tried.map Fallback.name).Sublist ["selector", "attributes", "text", "scan"] ∧
        ((∃ message, e = .failed (.engine (.elementNotFound c.xpath message))) ↔
          ∃ f before u hints after v, Thwarted plan sites page c s f before u hints ∧
            Ladder plan.clickTimeout page (hints.fallbacks c.xpath) u
              (hints.fallbacks c.xpath) false after v) := by
  refine ⟨?_, fun h => fallbacks_names h _, ?_⟩
  · unfold ClickPlan.rounds
    omega
  · obtain ⟨made, tried, e, log, t, course⟩ := click_course plan sites page c s
    refine ⟨made, tried, e, t, log, course.run, course.exchanged.calls, course, course.made_le,
      course.fewer, course.reloads_eq, course.tried_ordered, ?_, ?_⟩
    · rintro ⟨message, rfl⟩
      exact course.thwarted
    · rintro ⟨f, before, u, hints, after, v, thwarted, ladder⟩
      have failed := (Course.nowhere thwarted ladder).run
      rw [course.run] at failed
      exact ⟨_, congrArg Prod.fst failed⟩

end Target
end Rehearsal
