import Rehearsal.Proofs.RunCourse

/-!
# The driver's resources in a run

Whatever fails in a run that ends, the driver it has started is stopped by the last of its
calls, the browser it has come by is closed before that, and the context in which it has
opened a page is closed before the browser. Each of these is done once, and none is done
to what was not there.
-/

namespace Rehearsal

/-- The service calls among calls. -/
def Call.service? {τ : Type} : Call τ → Option ServiceCall
  | .service c => some c
  | _ => none

def services {τ : Type} (calls : List (Call τ)) : List ServiceCall :=
  calls.filterMap Call.service?

lemma services_quiet {τ : Type} {calls : List (Call τ)} (h : ∀ c ∈ calls, c.isService = false) :
    services calls = [] := by
  refine List.filterMap_eq_nil_iff.mpr fun c hc => ?_
  have := h c hc
  cases c with
  | service c => cases this
  | _ => rfl

@[simp] lemma services_append {τ : Type} (calls more : List (Call τ)) :
    services (calls ++ more) = services calls ++ services more :=
  List.filterMap_append

@[simp] lemma services_cons {τ : Type} (c : ServiceCall) (calls : List (Call τ)) :
    services (.service c :: calls) = c :: services calls := rfl

@[simp] lemma services_nil {τ : Type} : services ([] : List (Call τ)) = [] := rfl

/-- Calls that end what another call has begun. -/
def ServiceCall.closes : ServiceCall → Bool
  | .closeContext | .closeBrowser | .stop => true
  | _ => false

/-- A service call that was made and, with the given faults, has worked. -/
def Worked (faults : List (String × String)) (calls : List (Call Float)) (c : ServiceCall) : Prop :=
  c ∈ services calls ∧ faults.lookup c.name = none

/-- Every resource that the calls have opened is closed by them, once and in good order. -/
structure Balanced (faults : List (String × String)) (calls : List (Call Float)) : Prop where
  driver : Worked faults calls .start → (services calls).count .stop = 1 ∧
    ∃ before, calls = before ++ [.service .stop]
  browser : ∀ c : ServiceCall, c.obtains → Worked faults calls c →
    (services calls).count .closeBrowser = 1 ∧
      ∃ before between, calls = before ++ .service .closeBrowser :: (between ++ [.service .stop])
  context : Worked faults calls .newPage → (services calls).count .closeContext = 1 ∧
    ∃ before between after,
      calls = before ++ .service .closeContext :: (between ++ .service .closeBrowser :: after)
  /-- Nothing is closed that has not been opened. -/
  stopped : .stop ∈ services calls → Worked faults calls .start
  left : .closeBrowser ∈ services calls → ∃ c : ServiceCall, c.obtains ∧ Worked faults calls c
  emptied : .closeContext ∈ services calls → Worked faults calls .newPage

lemma obtains_opens {c : ServiceCall} (h : c.obtains) : c.closes = false := by
  cases c <;> first | rfl | cases h

/-- The calls up to those that close something. -/
structure Opening (faults : List (String × String)) (opening : List (Call Float)) : Prop where
  unclosed : ∀ c ∈ services opening, c.closes = false
  started : Worked faults opening .start

section Opening

variable {faults : List (String × String)} {opening closing : List (Call Float)}
  (h : Opening faults opening)

lemma Worked.append {c : ServiceCall} (hc : Worked faults opening c) :
    Worked faults (opening ++ closing) c :=
  ⟨by rw [services_append]; exact List.mem_append_left _ hc.1, hc.2⟩

/-- What closes something opens nothing. -/
lemma Worked.of_append {c : ServiceCall} (hc : Worked faults (opening ++ closing) c)
    (opens : c.closes = false) (closes : ∀ d ∈ services closing, d.closes) :
    Worked faults opening c := by
  obtain ⟨hm, hw⟩ := hc
  rw [services_append] at hm
  rcases List.mem_append.mp hm with hm | hm
  · exact ⟨hm, hw⟩
  · cases (closes c hm).symm.trans opens

include h

lemma Opening.count {c : ServiceCall} (hc : c.closes) :
    (services (opening ++ closing)).count c = (services closing).count c := by
  have none : (services opening).count c = 0 :=
    List.count_eq_zero.mpr fun hm => by cases (h.unclosed c hm).symm.trans hc
  rw [services_append, List.count_append, none, Nat.zero_add]

lemma Opening.mem {c : ServiceCall} (hc : c.closes) (hm : c ∈ services (opening ++ closing)) :
    c ∈ services closing := by
  rw [← List.count_pos_iff] at hm ⊢
  rwa [h.count hc] at hm

/-- Without a browser there is only the driver to be stopped. -/
lemma Opening.stopped (browserless : ∀ c : ServiceCall, c.obtains → ¬ Worked faults opening c)
    (pageless : ¬ Worked faults opening .newPage) :
    Balanced faults (opening ++ [.service .stop]) := by
  have closes : ∀ c ∈ services ([.service .stop] : List (Call Float)), c.closes := by
    simp [ServiceCall.closes]
  refine ⟨fun _ => ⟨h.count rfl, opening, rfl⟩, fun c ho hc => ?_, fun hc => ?_,
    fun _ => h.started.append, fun hm => ?_, fun hm => ?_⟩
  · exact absurd (hc.of_append (obtains_opens ho) closes) (browserless c ho)
  · exact absurd (hc.of_append rfl closes) pageless
  · cases List.mem_singleton.mp (h.mem rfl hm)
  · cases List.mem_singleton.mp (h.mem rfl hm)

/-- Without a page in its context a browser is closed at once. -/
lemma Opening.abandoned {c : ServiceCall} (ho : c.obtains) (hc : Worked faults opening c)
    (pageless : ¬ Worked faults opening .newPage) :
    Balanced faults (opening ++ [.service .closeBrowser, .service .stop]) := by
  have closes : ∀ c ∈ services ([.service .closeBrowser, .service .stop] : List (Call Float)),
      c.closes := by simp [ServiceCall.closes]
  refine ⟨fun _ => ⟨h.count rfl, opening ++ [.service .closeBrowser], by simp⟩,
    fun d _ _ => ⟨h.count rfl, opening, [], rfl⟩, fun hc => ?_, fun _ => h.started.append,
    fun _ => ⟨c, ho, hc.append⟩, fun hm => ?_⟩
  · exact absurd (hc.of_append rfl closes) pageless
  · rcases List.mem_pair.mp (h.mem rfl hm) with hm | hm <;> cases hm

lemma Opening.closed {c : ServiceCall} (ho : c.obtains) (hc : Worked faults opening c)
    (hp : Worked faults opening .newPage) :
    Balanced faults
      (opening ++ [.service .closeContext, .service .closeBrowser, .service .stop]) :=
  ⟨fun _ => ⟨h.count rfl, opening ++ [.service .closeContext, .service .closeBrowser], by simp⟩,
    fun _ _ _ => ⟨h.count rfl, opening ++ [.service .closeContext], [], by simp⟩,
    fun _ => ⟨h.count rfl, opening, [], [.service .stop], rfl⟩, fun _ => h.started.append,
    fun _ => ⟨c, ho, hc.append⟩, fun _ => hp.append⟩

end Opening

namespace Session

variable {faults : List (String × String)} {calls : List (Call Float)}

lemma Remainder.balanced (hs : faults.lookup ServiceCall.start.name = none)
    {probe : List (Call Float)} (hq : ∀ c ∈ probe, c.isService = false)
    (h : Remainder faults calls) : Balanced faults (.service .start :: (probe ++ calls)) := by
  have quiet := services_quiet hq
  -- The calls up to the first that closes something are services `cs` among others.
  have opening (more : List (Call Float)) (cs : List ServiceCall) (hm : services more = cs)
      (opens : ∀ c ∈ cs, c.closes = false) :
      services (.service .start :: (probe ++ more)) = .start :: cs ∧
        Opening faults (.service .start :: (probe ++ more)) := by
    have all : services (.service .start :: (probe ++ more)) = .start :: cs := by
      simp [quiet, hm]
    refine ⟨all, ?_, by simp [all], hs⟩
    rw [all]
    exact List.forall_mem_cons.mpr ⟨rfl, opens⟩
  cases h with
  | unreachable =>
    obtain ⟨all, opened⟩ := opening [] [] rfl (by simp)
    have balanced := opened.stopped ?_ ?_
    · simpa using balanced
    · rintro c ho ⟨hc, -⟩
      rw [all, List.mem_singleton] at hc
      cases hc
      cases ho
    · rintro ⟨hc, -⟩
      rw [all, List.mem_singleton] at hc
      cases hc
  | refused c ho hf =>
    obtain ⟨all, opened⟩ := opening [.service c] [c] rfl (by simp [obtains_opens ho])
    have balanced := opened.stopped ?_ ?_
    · simpa using balanced
    · rintro d hd ⟨hm, hw⟩
      rw [all] at hm
      rcases List.mem_pair.mp hm with rfl | rfl
      · cases hd
      · exact hf hw
    · rintro ⟨hm, -⟩
      rw [all] at hm
      rcases List.mem_pair.mp hm with hm | rfl
      · cases hm
      · cases ho
  | contextless c ho hf o hc =>
    obtain ⟨all, opened⟩ := opening [.service c, .service (.newContext o)] [c, .newContext o] rfl
      (List.forall_mem_cons.mpr ⟨obtains_opens ho, by simp [ServiceCall.closes]⟩)
    have balanced := opened.abandoned ho ⟨by simp [all], hf⟩ ?_
    · simpa using balanced
    · rintro ⟨hm, -⟩
      rw [all] at hm
      rcases List.mem_cons.mp hm with hm | hm
      · cases hm
      rcases List.mem_pair.mp hm with rfl | hm
      · cases ho
      · cases hm
  | pageless c ho hf o hc hp =>
    obtain ⟨all, opened⟩ := opening
      [.service c, .service (.newContext o), .service .newPage] [c, .newContext o, .newPage] rfl
      (List.forall_mem_cons.mpr ⟨obtains_opens ho, by simp [ServiceCall.closes]⟩)
    have balanced := opened.abandoned ho ⟨by simp [all], hf⟩ fun worked => hp worked.2
    simpa using balanced
  | closed c ho hf o hc hp during hd =>
    obtain ⟨all, opened⟩ := opening
      (.service c :: .service (.newContext o) :: .service .newPage :: during)
      [c, .newContext o, .newPage] (by simp [services_quiet hd])
      (List.forall_mem_cons.mpr ⟨obtains_opens ho, by simp [ServiceCall.closes]⟩)
    have balanced := opened.closed ho ⟨by simp [all], hf⟩ ⟨by simp [all], hp⟩
    simpa using balanced

lemma Teardown.balanced (h : Teardown faults calls) : Balanced faults calls := by
  cases h with
  | unstarted hs =>
    refine ⟨fun h => absurd h.2 hs, ?_, ?_, ?_, ?_, ?_⟩
    · rintro c ho ⟨hc, -⟩
      rw [List.mem_singleton.mp hc] at ho
      cases ho
    all_goals simp [Worked]
  | started hs probe hq rest h => exact h.balanced hs hq

end Session

namespace Run

open Play

variable {settings : Settings} {url : Value} {g : Given} {actions : List Action}
  {s t : Stage Float}

/-- The calls of a run that ends are those of a session that is over. -/
lemma run_teardown {e : Ending (Except RunFailure RunResult)} (hg : g.read = .ok actions)
    (h : ofGiven settings url g s = (e, t)) (ends : e ≠ .endless) :
    ∃ calls, t.trace = s.trace ++ calls ∧ Session.Teardown s.faults calls := by
  rcases ran settings url s hg with
    ⟨f, u, hl, calls, called, ended, hr⟩ |
    ⟨session, u, hl, calls, called, ahead, result, v, hs, w, -, closing, hr⟩ | ⟨u, hr, -⟩
  · cases hr.symm.trans h
    exact ⟨calls, called.trace, ended⟩
  · cases hr.symm.trans h
    have quiet : Within (Deeds (settings .browserTimeout) anyRecord) True
        (inSession settings session url actions) :=
      inSession_deeds settings session url actions fun _ _ => trivial
    have settling : Within (Deeds (settings .browserTimeout) anyRecord) True
        (settled (inSession settings session url actions)) :=
      .bind quiet.attempt fun r => by split <;> exact .pure _
    obtain ⟨during, hj, hd⟩ := (settling.stage hs).journal
    refine ⟨_, ?_, ahead during.reverse fun c hc => hd c (List.mem_reverse.mp hc)⟩
    have kept : v.trace = u.trace ++ during.reverse := by
      rw [Stage.trace, Stage.trace, hj, List.reverse_append]
    rw [closing.trace, kept, called.trace]
    simp only [List.append_assoc]
    rfl
  · cases hr.symm.trans h
    exact absurd rfl ends

/-- Whatever fails in a run that ends, its calls balance. -/
theorem run_balanced {e : Ending (Except RunFailure RunResult)}
    (h : ofGiven settings url g s = (e, t)) (ends : e ≠ .endless) :
    ∃ calls, t.trace = s.trace ++ calls ∧ Balanced s.faults calls ∧
      ((∃ cause, g.read = .error cause) → calls = []) := by
  rcases hg : g.read with cause | actions
  · cases (ofGiven_unread settings url hg s).symm.trans h
    refine ⟨[], (List.append_nil _).symm, ?_, fun _ => rfl⟩
    constructor <;> simp [Worked]
  · obtain ⟨calls, ht, ended⟩ := run_teardown hg h ends
    exact ⟨calls, ht, ended.balanced, fun ⟨cause, hc⟩ => by cases hc⟩

/-- Neither can the first page be opened, nor does the browser close without complaint. -/
theorem run_balanced_pageless : ∃ e t,
    ofGiven Settings.standard (.text "https://x") (.items [.ready .switchToMain])
      { now := 0, faults := [("context.new_page", "no page"), ("browser.close", "gone")] } =
        (e, t) ∧ e ≠ .endless ∧
    ∃ calls, t.trace = [] ++ calls ∧
      Balanced [("context.new_page", "no page"), ("browser.close", "gone")] calls ∧
      ((∃ cause, (Given.items [.ready .switchToMain]).read = .error cause) → calls = []) := by
  have ends : (ofGiven Settings.standard (.text "https://x") (.items [.ready .switchToMain])
      { now := 0, faults := [("context.new_page", "no page"), ("browser.close", "gone")]
        }).1.value?.isSome = true := by decide +kernel
  rcases h : ofGiven Settings.standard (.text "https://x") (.items [.ready .switchToMain])
      { now := 0, faults := [("context.new_page", "no page"), ("browser.close", "gone")] } with
    ⟨e, t⟩
  rw [h] at ends
  have ends : e ≠ .endless := by
    rintro rfl
    cases ends
  exact ⟨e, t, rfl, ends, run_balanced h ends⟩

end Run

end Rehearsal
