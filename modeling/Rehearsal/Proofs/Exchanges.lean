import Rehearsal.Proofs.BrowserDeeds

/-!
# What calls a play makes, and which of them return

A call on a page or a locator is put down once, whatever becomes of it; besides it only
answers to dialogs are put down meanwhile. So a play that does nothing but make calls and
pause is told by the list of these, each with whether it returned or raised.
-/

namespace Rehearsal

open Play

variable {τ α β : Type} {E : Prop}

/-- The journal in order, without the answers to dialogs. -/
def Stage.calls (s : Stage τ) : List (Call τ) := s.trace.filter (!·.isAnswer)

lemma Stage.Quiet.calls {s t : Stage τ} (h : s.Quiet t) : t.calls = s.calls := by
  obtain ⟨answers, hj, ha⟩ := h.journal
  have dropped : answers.reverse.filter (!·.isAnswer) = [] := by
    refine List.filter_eq_nil_iff.mpr fun c hc => ?_
    simp [ha c (List.mem_reverse.mp hc)]
  unfold Stage.calls Stage.trace
  rw [hj, List.reverse_append, List.filter_append, dropped, List.append_nil]

lemma Stage.note_calls (s : Stage τ) {c : Call τ} (h : c.isAnswer = false) :
    (s.note c).calls = s.calls ++ [c] := by
  simp [Stage.calls, Stage.trace, Stage.note, h]

namespace Browser

lemma visibleElement_quiet (id : Nat) (selector : String) (timeout : Int) :
    Within Stage.Quiet E (visibleElement id selector timeout : Play τ _) := by
  refine .bind (.look _) fun all => ?_
  split
  · exact .pure _
  · exact .fail _

lemma changeAt_quiet (id i : Nat) (f : Element (Effect τ) → Element (Effect τ)) :
    Within Stage.Quiet E (changeAt id i f) :=
  .change fun _ => Stage.quiet_of_same rfl rfl rfl rfl

lemma located_quiet (id : Nat) (l : Locator) :
    Within Stage.Quiet E (located id l : Play τ _) := by
  refine .bind (.look _) fun all => ?_
  dsimp only
  split <;> exact .pure _

lemma locate_quiet (id : Nat) (l : Locator) (timeout : Option Int) :
    Within Stage.Quiet E (locate id l timeout : Play τ _) := by
  refine .bind (located_quiet id l) fun found => ?_
  cases found with
  | nil => exact .fail _
  | cons e rest => exact .pure e

/-- Whether a play succeeds is always told, on the stage where it ends. -/
lemma succeeds_run {p : Play τ Unit} {s : Stage τ} (ends : (p s).1 ≠ .endless) :
    ∃ worked, succeeds p s = (.done worked, (p s).2) := by
  rcases hp : p s with ⟨⟨⟩ | f | _, t⟩
  · exact ⟨true, bind_done (attempt_done hp)⟩
  · exact ⟨false, bind_done (attempt_failed hp)⟩
  · exact absurd (congrArg Prod.fst hp) ends

end Browser

variable [Clock τ]

lemma Stage.quiet_happen (s : Stage τ) (id : Nat) (step : Step τ) :
    s.Quiet (s.happen id step) := by
  unfold happen
  induction step generalizing s with
  | nil => exact refl s
  | cons e rest ih => exact IsTrans.trans _ _ _ (quiet_perform s id e) (ih _)

lemma Stage.sleep_calls (s : Stage τ) (span : τ) :
    (s.sleep span).calls = s.calls ++ [.sleep span] := by
  have noted := s.note_calls (c := .sleep span) rfl
  unfold sleep
  dsimp only
  split
  · exact noted
  · next id step rest _ =>
    rw [← noted]
    exact (quiet_happen _ id step).calls

namespace Browser

lemma runStep_quiet (id : Nat) (step : Step τ) : Within Stage.Quiet E (runStep id step) := by
  intro s
  have quiet := s.quiet_performAll id step
  unfold runStep
  split
  · next h =>
    rw [h] at quiet
    exact ⟨quiet, fun h => by cases h⟩
  · next h =>
    rw [h] at quiet
    exact ⟨quiet, fun h => by cases h⟩

lemma followScript_quiet (id : Nat) (name : String) :
    Within Stage.Quiet E (followScript id name : Play τ Unit) := by
  intro s
  unfold followScript
  split
  · exact ⟨refl s, fun h => by cases h⟩
  · next p _ =>
    let t := s.updatePage id fun q => { q with script := (takeStep p.script name).2 }
    have same : s.Quiet t := Stage.quiet_of_same rfl rfl rfl rfl
    have step : Within Stage.Quiet E (runStep id (takeStep p.script name).1) := runStep_quiet id _
    obtain ⟨quiet, ends⟩ := step t
    exact ⟨IsTrans.trans _ _ _ same quiet, ends⟩

/-- After a call has been put down there is only what its script brings up. -/
lemma enter_quiet (id : Nat) (entry : Call τ) (name : String) (s : Stage τ) :
    (s.note entry).Quiet (enter id entry name s).2 ∧ (enter id entry name s).1 ≠ .endless := by
  have rest : Within Stage.Quiet False (do
      if ← Play.look (·.isClosed id) then raise closedMessage
      followScript id name : Play τ Unit) := by
    refine .bind (.look _) fun closed => ?_
    dsimp only
    split
    · exact .bind (.fail _) fun _ => followScript_quiet id name
    · exact followScript_quiet id name
  exact rest (s.note entry)

/-- A call that does its work without another is put down, and nothing else is. -/
lemma enter_calls (id : Nat) {entry : Call τ} (h : entry.isAnswer = false) (name : String)
    {f : Unit → Play τ α} (hf : Within Stage.Quiet False (f ())) (s : Stage τ) :
    ((enter id entry name >>= f) s).2.calls = s.calls ++ [entry] ∧
      ((enter id entry name >>= f) s).1 ≠ .endless := by
  obtain ⟨quiet, ends⟩ := enter_quiet id entry name s
  have entered : (enter id entry name s).2.calls = s.calls ++ [entry] := by
    rw [quiet.calls, s.note_calls h]
  rcases hp : enter id entry name s with ⟨⟨⟩ | e | _, t⟩ <;> rw [hp] at entered ends
  · rw [bind_done hp, ← entered]
    obtain ⟨worked, ends⟩ := hf t
    exact ⟨worked.calls, ends⟩
  · rw [bind_failed hp]
    exact ⟨entered, nofun⟩
  · exact absurd rfl ends

lemma clickElement_quiet (id : Nat) (found : Nat × Element (Effect τ)) :
    Within Stage.Quiet E (clickElement id found) :=
  .bind (changeAt_quiet id _ _) fun _ => runStep_quiet id _

end Browser

/-- The calls by which targets are clicked, each with the play that makes it. -/
inductive Target.Asks : {α : Type} → Call τ → Play τ α → Prop
  | reload (id : Nat) : Asks (.page id .reload) (Browser.reload id)
  | waitForSelector (id : Nat) (selector : String) (timeout : Int) :
      Asks (.page id (.waitForSelector selector timeout))
        (Browser.waitForSelector id selector timeout)
  | click (id : Nat) (selector : String) (timeout : Int) :
      Asks (.page id (.click selector timeout)) (Browser.click id selector timeout)
  | count (id : Nat) (l : Locator) : Asks (.locator id l .count) (Browser.count id l)
  | all (id : Nat) (selector : String) :
      Asks (.locator id { selector } .all) (Browser.all id selector)
  | clickLocated (id : Nat) (l : Locator) (timeout : Option Int) :
      Asks (.locator id l (.click timeout)) (Browser.clickLocated id l timeout)
  | fillLocated (id : Nat) (l : Locator) (value : String) (timeout : Option Int) :
      Asks (.locator id l (.fill value timeout)) (Browser.fillLocated id l value timeout)
  | textOf (id : Nat) (l : Locator) : Asks (.locator id l .textContent) (Browser.textOf id l)

/-- Each of these calls is put down, as the only one, and comes to an end. -/
lemma Target.Asks.made {c : Call τ} {p : Play τ α} (h : Asks c p) (s : Stage τ) :
    (p s).2.calls = s.calls ++ [c] ∧ (p s).1 ≠ .endless := by
  cases h with
  | reload id =>
    obtain ⟨quiet, ends⟩ := Browser.enter_quiet id (.page id .reload) "reload" s
    exact ⟨quiet.calls.trans (s.note_calls rfl), ends⟩
  | waitForSelector id selector timeout =>
    exact Browser.enter_calls id rfl _
      (.bind (Browser.visibleElement_quiet id _ _) fun _ => .pure _) s
  | click id selector timeout =>
    exact Browser.enter_calls id rfl _
      (.bind (Browser.visibleElement_quiet id _ _) fun _ => Browser.clickElement_quiet id _) s
  | count id l =>
    exact Browser.enter_calls id rfl _ (.bind (Browser.located_quiet id l) fun _ => .pure _) s
  | all id selector =>
    exact Browser.enter_calls id rfl _ (.bind (Browser.located_quiet id _) fun _ => .pure _) s
  | clickLocated id l timeout =>
    exact Browser.enter_calls id rfl _
      (.bind (Browser.locate_quiet id l _) fun _ => Browser.clickElement_quiet id _) s
  | fillLocated id l value timeout =>
    exact Browser.enter_calls id rfl _
      (.bind (Browser.locate_quiet id l _) fun _ => Browser.changeAt_quiet id _ _) s
  | textOf id l =>
    exact Browser.enter_calls id rfl _ (.bind (Browser.locate_quiet id l _) fun _ => .pure _) s

/-- A call or a pause, and whether it returned. -/
structure Exchange (τ : Type) where
  call : Call τ
  returned : Bool

/-- From one stage to another by nothing but these pauses and calls, one after another. -/
inductive Exchanged : Stage τ → List (Exchange τ) → Stage τ → Prop
  | none (s : Stage τ) : Exchanged s [] s
  | pause {s t : Stage τ} {log : List (Exchange τ)} (span : τ)
      (later : Exchanged (s.sleep span) log t) : Exchanged s (⟨.sleep span, true⟩ :: log) t
  | call {s t : Stage τ} {log : List (Exchange τ)} {α : Type} {c : Call τ} {p : Play τ α}
      (asked : Target.Asks c p) (later : Exchanged (p s).2 log t) :
      Exchanged s (⟨c, (p s).1.value?.isSome⟩ :: log) t

namespace Exchanged

variable {s t u : Stage τ} {log more : List (Exchange τ)}

lemma trans (h : Exchanged s log t) (k : Exchanged t more u) : Exchanged s (log ++ more) u := by
  induction h with
  | none => exact k
  | pause span _ ih => exact .pause span (ih k)
  | call asked _ ih => exact .call asked (ih k)

/-- The journal has exactly these calls. -/
lemma calls (h : Exchanged s log t) : t.calls = s.calls ++ log.map (·.call) := by
  induction h with
  | none => rw [List.map_nil, List.append_nil]
  | pause span _ ih => rw [ih, Stage.sleep_calls, List.append_assoc, List.map_cons]; rfl
  | call asked _ ih => rw [ih, (asked.made _).1, List.append_assoc, List.map_cons]; rfl

end Exchanged

end Rehearsal
