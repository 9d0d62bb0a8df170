import Rehearsal.Proofs.Exchanges
import Rehearsal.Target.Clicking

/-!
# A click is made once

Clicks are made in five places: by the way of a site, directly, on the first element of a
fallback, and on an element that a scan finds, each within attempts that put failures aside.
None of them goes on after a click that has returned, and none tells of a click that has
not. So an operation that is done has made one click that returned, as its last call, and an
operation that fails has made none.
-/

namespace Rehearsal

open Play

variable {τ α β : Type}

/-- Calls that click. -/
def Call.isClick : Call τ → Bool
  | .page _ (.click ..) | .locator _ _ (.click _) => true
  | _ => false

/-- No click among these has returned. -/
def Idle (log : List (Exchange τ)) : Prop :=
  ∀ x ∈ log, x.call.isClick = true → x.returned = false

/-- One click has returned, and it is the last of the calls. -/
def Landed (log : List (Exchange τ)) : Prop :=
  ∃ before last, log = before ++ [last] ∧ Idle before ∧ last.call.isClick = true ∧
    last.returned = true

lemma Idle.nil : Idle ([] : List (Exchange τ)) := by
  intro x hx
  cases hx

lemma Idle.append {log more : List (Exchange τ)} (h : Idle log) (k : Idle more) :
    Idle (log ++ more) := by
  intro x hx
  rcases List.mem_append.mp hx with hx | hx
  · exact h x hx
  · exact k x hx

lemma Landed.after {log more : List (Exchange τ)} (h : Idle log) (k : Landed more) :
    Landed (log ++ more) := by
  obtain ⟨before, last, rfl, idle, click, returned⟩ := k
  exact ⟨log ++ before, last, (List.append_assoc ..).symm, h.append idle, click, returned⟩

/-- What a play has come to by its calls. A value tells by `clicked` whether there has been a
click; a failure tells that there has been none, and is one that may be `raised`. -/
inductive Tally (clicked : α → Bool) (raised : Failure → Stage τ → Prop)
    (log : List (Exchange τ)) : Ending α → Stage τ → Prop
  | landed {a : α} {t : Stage τ} (h : clicked a = true) (once : Landed log) :
      Tally clicked raised log (.done a) t
  | missed {a : α} {t : Stage τ} (h : clicked a = false) (idle : Idle log) :
      Tally clicked raised log (.done a) t
  | failed {f : Failure} {t : Stage τ} (idle : Idle log) (h : raised f t) :
      Tally clicked raised log (.failed f) t

variable [Clock τ]

/-- The play makes calls and pauses only, and its ending tells of them. -/
def Clicks (clicked : α → Bool) (raised : Failure → Stage τ → Prop) (p : Play τ α) : Prop :=
  ∀ s, ∃ e t log, p s = (e, t) ∧ Exchanged s log t ∧ Tally clicked raised log e t

/-- A play that does not click. -/
abbrev Unclicked (_ : α) : Bool := false

/-- A play that clicks whenever it is done. -/
abbrev Clicked (_ : α) : Bool := true

/-- Any failure. -/
abbrev Anything (_ : Failure) (_ : Stage τ) : Prop := True

namespace Clicks

variable {clicked : α → Bool} {after : β → Bool} {raised : Failure → Stage τ → Prop}

lemma pure {a : α} (h : clicked a = false) : Clicks clicked raised (Pure.pure a : Play τ α) :=
  fun s => ⟨.done a, s, [], rfl, .none s, .missed h .nil⟩

lemma fail {f : Failure} (h : ∀ s, raised f s) :
    Clicks clicked raised (Play.fail f : Play τ α) :=
  fun s => ⟨.failed f, s, [], rfl, .none s, .failed .nil (h s)⟩

lemma sleep (span : τ) : Clicks Unclicked raised (Play.sleep span) := by
  intro s
  have idle : Idle [(⟨.sleep span, true⟩ : Exchange τ)] := by
    intro x hx click
    rw [List.mem_singleton.mp hx] at click
    cases click
  exact ⟨.done (), s.sleep span, _, rfl, .pause span (.none _), .missed rfl idle⟩

lemma pause (span : τ) : Clicks Unclicked raised (Play.pause span) := by
  unfold Play.pause
  split
  · exact sleep span
  · exact pure rfl

/-- A single call tells of a click exactly when it is one. -/
lemma asks {c : Call τ} {p : Play τ α} (h : Target.Asks c p) :
    Clicks (fun _ => c.isClick) Anything p := by
  intro s
  have asked : Exchanged s [⟨c, (p s).1.value?.isSome⟩] (p s).2 := .call h (.none _)
  have unreturned : Idle [(⟨c, false⟩ : Exchange τ)] := by
    intro x hx _
    rw [List.mem_singleton.mp hx]
  rcases hp : p s with ⟨a | f | _, t⟩ <;> rw [hp] at asked
  · refine ⟨.done a, t, _, rfl, asked, ?_⟩
    cases click : c.isClick with
    | true => exact .landed rfl ⟨[], ⟨c, true⟩, rfl, .nil, click, rfl⟩
    | false =>
      refine .missed rfl fun x hx k => ?_
      rw [List.mem_singleton.mp hx] at k
      exact absurd (click.symm.trans k) Bool.false_ne_true
  · exact ⟨.failed f, t, _, rfl, asked, .failed unreturned trivial⟩
  · exact absurd (congrArg Prod.fst hp) (h.made s).2

/-- After a click nothing more is done. -/
lemma bind {p : Play τ α} {f : α → Play τ β} (hp : Clicks clicked raised p)
    (stop : ∀ a, clicked a = true → ∃ b, f a = Pure.pure b ∧ after b = true)
    (go : ∀ a, clicked a = false → Clicks after raised (f a)) :
    Clicks after raised (p >>= f) := by
  intro s
  obtain ⟨e, t, log, hs, exchanged, tally⟩ := hp s
  cases tally with
  | landed h once =>
    obtain ⟨b, hb, hit⟩ := stop _ h
    refine ⟨.done b, t, log, ?_, exchanged, .landed hit once⟩
    rw [bind_done hs, hb]
    rfl
  | missed h idle =>
    obtain ⟨e, u, more, ht, later, tally⟩ := go _ h t
    refine ⟨e, u, log ++ more, (bind_done hs).trans ht, exchanged.trans later, ?_⟩
    cases tally with
    | landed hit once => exact .landed hit (.after idle once)
    | missed miss quiet => exact .missed miss (idle.append quiet)
    | failed quiet h => exact .failed (idle.append quiet) h
  | failed idle h => exact ⟨_, t, log, bind_failed hs, exchanged, .failed idle h⟩

/-- A play that does not click leaves that to what follows. -/
lemma andThen {p : Play τ α} {f : α → Play τ β} (hp : Clicks Unclicked raised p)
    (hf : ∀ a, Clicks after raised (f a)) : Clicks after raised (p >>= f) := by
  refine bind hp ?_ fun a _ => hf a
  intro a h
  cases h

/-- A click is told of by a value. -/
lemma told {p : Play τ α} (hp : Clicks Clicked raised p) {b : β} (h : after b = true) :
    Clicks after raised (p >>= fun _ => Pure.pure b) := by
  refine bind hp (fun _ _ => ⟨b, rfl, h⟩) ?_
  intro a ha
  cases ha

/-- Does the value of an attempt tell of a click? -/
def attempted (clicked : α → Bool) : Except Failure α → Bool
  | .ok a => clicked a
  | .error _ => false

lemma attempt {p : Play τ α} (hp : Clicks clicked Anything p) :
    Clicks (attempted clicked) raised (Play.attempt p) := by
  intro s
  obtain ⟨e, t, log, hs, exchanged, tally⟩ := hp s
  cases tally with
  | landed h once => exact ⟨_, t, log, attempt_done hs, exchanged, .landed h once⟩
  | missed h idle => exact ⟨_, t, log, attempt_done hs, exchanged, .missed h idle⟩
  | failed idle _ => exact ⟨_, t, log, attempt_failed hs, exchanged, .missed rfl idle⟩

/-- What a look at the stage may raise, it raises on that stage. -/
lemma examine {view : Stage τ → Except Failure α} {f : α → Play τ β}
    (unseen : ∀ s f, view s = .error f → raised f s)
    (seen : ∀ s a, view s = .ok a → Clicks after raised (f a)) :
    Clicks after raised (Play.examine view >>= f) := by
  intro s
  rcases hv : view s with e | a
  · exact ⟨.failed e, s, [], bind_failed (examine_error hv), .none s,
      .failed .nil (unseen s e hv)⟩
  · obtain ⟨e, t, log, ht, exchanged, tally⟩ := seen s a hv s
    exact ⟨e, t, log, (bind_done (examine_ok hv)).trans ht, exchanged, tally⟩

end Clicks

namespace Target

variable {raised : Failure → Stage τ → Prop}

lemma signIn_clicks (a : AccountChooser) (submitDelay : τ) (page : Nat) (c : Click) :
    Clicks id Anything (signIn a submitDelay page c) := by
  unfold signIn
  split
  · exact .pure rfl
  · refine .examine (fun _ _ _ => trivial) fun _ login _ => ?_
    split
    · exact .pure rfl
    · refine .andThen (.asks (.count page _)) fun fields => ?_
      split
      · exact .pure rfl
      · refine .andThen (.asks (.fillLocated page _ _ _)) fun _ => ?_
        refine .andThen (.pause _) fun _ => .andThen (.asks (.count page _)) fun buttons => ?_
        split
        · exact .pure rfl
        · exact .told (.asks (.clickLocated page _ _)) rfl

lemma directClick_clicks (plan : ClickPlan τ) (page : Nat) (c : Click) :
    Clicks Clicked Anything (directClick plan page c) :=
  .andThen (.asks (.waitForSelector page _ _)) fun _ => .asks (.click page _ _)

lemma clickContaining_clicks (timeout : Int) (page : Nat) (text : String) (ls : List Locator) :
    Clicks id Anything (clickContaining timeout page text ls : Play τ Bool) := by
  induction ls with
  | nil => exact .pure rfl
  | cons l rest ih =>
    refine .andThen (.asks (.textOf page l)) fun content => ?_
    dsimp only
    split
    · exact .told (.asks (.clickLocated page l _)) rfl
    · exact ih

lemma scan_clicks (timeout : Int) (page : Nat) (container text : String) :
    Clicks id Anything (scan timeout page container text : Play τ Bool) := by
  unfold scan
  split
  · exact .pure rfl
  · exact .andThen (.asks (.all page _)) fun ls => clickContaining_clicks timeout page text ls

lemma clickFirst_clicks (timeout : Int) (page : Nat) (selector : String) :
    Clicks id Anything (clickFirst timeout page selector : Play τ Bool) := by
  refine .andThen (.asks (.count page _)) fun n => ?_
  split
  · exact .pure rfl
  · exact .told (.asks (.clickLocated page _ _)) rfl

lemma tryFallback_clicks (timeout : Int) (page : Nat) (f : Fallback) :
    Clicks id Anything (tryFallback timeout page f : Play τ Bool) := by
  unfold tryFallback
  split
  · exact scan_clicks timeout page _ _
  · exact clickFirst_clicks timeout page _

/-- After a fallback that has clicked no other is tried. -/
lemma tryFallbacks_clicks (timeout : Int) (page : Nat) (fs : List Fallback) :
    Clicks id raised (tryFallbacks timeout page fs : Play τ Bool) := by
  induction fs with
  | nil => exact .pure rfl
  | cons f rest ih =>
    refine .bind (tryFallback_clicks timeout page f).attempt ?_ ?_
    · rintro (e | _ | _) h
      · cases h
      · cases h
      · exact ⟨true, rfl, rfl⟩
    · rintro (e | _ | _) h
      · exact ih
      · exact ih
      · cases h

lemma refresh_clicks (plan : ClickPlan τ) (page : Nat) :
    Clicks Unclicked raised (refresh plan page) := by
  have reload : Clicks Unclicked raised (Browser.safeReload page : Play τ Bool) := by
    refine .bind (Clicks.asks (.reload page)).attempt ?_ ?_
    · rintro (f | _) h <;> cases h
    · rintro (f | _) - <;> exact .pure rfl
  exact .andThen (.sleep _) fun _ => .andThen reload fun _ => .sleep _

lemma tryClick_clicks (plan : ClickPlan τ) {own : Play τ Bool} (ho : Clicks id Anything own)
    (page : Nat) (c : Click) : Clicks Clicked Anything (tryClick plan own page c) := by
  refine .bind ho ?_ ?_
  · rintro _ rfl
    exact ⟨(), rfl, rfl⟩
  · rintro _ rfl
    exact directClick_clicks plan page c

/-- Attempts without a failure to tell of have clicked. -/
lemma attempts_clicks (plan : ClickPlan τ) {own : Stage τ → Except Failure (Play τ Bool)}
    (lost : ∀ s f, own s = .error f → raised f s)
    (ho : ∀ s way, own s = .ok way → Clicks id Anything way) (page : Nat) (c : Click)
    (more : Nat) : Clicks Option.isNone raised (attempts plan own page c (more + 1)) := by
  have last {s : Stage τ} {way : Play τ Bool} (hw : own s = .ok way) :
      Clicks (Clicks.attempted Clicked) raised (Play.attempt (tryClick plan way page c)) :=
    (tryClick_clicks plan (ho s way hw) page c).attempt
  induction more with
  | zero =>
    refine .examine lost fun s way hw => .bind (last hw) ?_ ?_
    · rintro (f | _) h
      · cases h
      · exact ⟨none, rfl, rfl⟩
    · rintro (f | _) h
      · exact .pure rfl
      · cases h
  | succ more ih =>
    refine .examine lost fun s way hw => .bind (last hw) ?_ ?_
    · rintro (f | _) h
      · cases h
      · exact ⟨none, rfl, rfl⟩
    · rintro (f | _) h
      · exact .andThen (refresh_clicks plan page) fun _ => ih
      · cases h

lemma clickWith_clicks (plan : ClickPlan τ) {own : Stage τ → Except Failure (Play τ Bool)}
    {sites : List Site} {page : Nat} {c : Click} (lost : ∀ s f, own s = .error f → raised f s)
    (ho : ∀ s way, own s = .ok way → Clicks id Anything way)
    (unknown : ∀ s f, c.resolveHints sites (s.url page) = .error f → raised f s)
    (notFound : ∀ message s, raised (.engine (.elementNotFound c.xpath message)) s) :
    Clicks Clicked raised (clickWith plan own sites page c) := by
  obtain ⟨more, rounds⟩ : ∃ more, plan.rounds = more + 1 :=
    Nat.exists_eq_add_of_le' (Nat.le_max_left 1 _)
  unfold clickWith
  rw [rounds]
  refine .bind (attempts_clicks plan lost ho page c more) ?_ ?_
  · rintro (_ | f) h
    · exact ⟨(), rfl, rfl⟩
    · cases h
  · rintro (_ | f) h
    · cases h
    · refine .examine unknown fun s hints _ => .bind (tryFallbacks_clicks _ page _) ?_ ?_
      · rintro _ rfl
        exact ⟨(), rfl, rfl⟩
      · rintro _ rfl
        exact .fail fun s => notFound _ s

/-- Why a click fails: its element is not found, or else the address of the page is no text
and cannot be asked for its site. -/
def Refused (page : Nat) (c : Click) (f : Failure) (t : Stage τ) : Prop :=
  (∃ message, f = .engine (.elementNotFound c.xpath message)) ∨
    Address.Unsearchable (t.url page) f

lemma ownClick_ok {sites : List Site} {page : Nat} {c : Click} {s : Stage Float}
    {way : Play Float Bool} (h : ownClick sites page c s = .ok way) :
    Clicks id Anything way := by
  obtain rfl | ⟨a, -, rfl⟩ := ownClick_cases h
  · exact .pure rfl
  · exact signIn_clicks a _ page c

lemma ownClick_error {sites : List Site} {page : Nat} {c : Click} {s : Stage Float} {f : Failure}
    (h : ownClick sites page c s = .error f) : Address.Unsearchable (s.url page) f := by
  rcases hf : Site.find sites (s.url page) with g | site <;> rw [ownClick, hf] at h <;> cases h
  exact Site.find_error hf

lemma resolveHints_error {sites : List Site} {c : Click} {url : Value} {f : Failure}
    (h : c.resolveHints sites url = .error f) : Address.Unsearchable url f := by
  rcases hf : Site.find sites url with g | site <;>
    rw [Click.resolveHints, hf] at h <;> cases h
  exact Site.find_error hf

/-- A click that is done has made exactly one click that returned, and that was its last call.
A click that fails has made none that returned, and its element was not found; only on a page
whose address is no text may it fail otherwise. Nothing but these calls and the pauses between
them is done meanwhile. -/
theorem click_once (plan : ClickPlan Float) (sites : List Site) (page : Nat) (c : Click)
    (s : Stage Float) : ∃ e t log, click plan sites page c s = (e, t) ∧ Exchanged s log t ∧
      t.calls = s.calls ++ log.map (·.call) ∧
      (e = .done () ∧ Landed log ∨ ∃ f, e = .failed f ∧ Idle log ∧
        ((∃ message, f = .engine (.elementNotFound c.xpath message)) ∨
          Address.Unsearchable (t.url page) f)) := by
  have clicks : Clicks Clicked (Refused page c) (click plan sites page c) := by
    refine clickWith_clicks plan ?_ (fun _ _ => ownClick_ok) ?_ ?_
    · intro s f h
      exact .inr (ownClick_error h)
    · intro s f h
      exact .inr (resolveHints_error h)
    · intro message s
      exact .inl ⟨message, rfl⟩
  obtain ⟨e, t, log, hs, exchanged, tally⟩ := clicks s
  refine ⟨e, t, log, hs, exchanged, exchanged.calls, ?_⟩
  cases tally with
  | landed h once => exact .inl ⟨rfl, once⟩
  | missed h idle => cases h
  | failed idle refused => exact .inr ⟨_, rfl, idle, refused⟩

end Target

end Rehearsal
