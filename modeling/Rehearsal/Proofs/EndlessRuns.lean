import Rehearsal.Proofs.RunPrefix

/-!
# Runs without an end

Everything that a run does comes to an end except the search for popups: where a run without an
endpoint to wait for does not end, it has begun a search, and that search does not end.
-/

namespace Rehearsal

open Play

namespace Run

variable {settings : Settings} {url : Value} {index : Nat} {a : Action} {state : State}
  {actions : List Action} {s t : Stage Float}

/-- A search that a run begins: the actions before it are completed, and this is the stage on
which it begins. -/
inductive Searches (settings : Settings) (url : Value) (s : Stage Float) (actions : List Action)
    (p : PopupSwitch) (state : State) (v : Stage Float) : Prop
  | intro (session : Session) (u : Stage Float) (begun : Begun settings url s session u)
      (before after : List Action) (split : actions = before ++ .switchToPopup p :: after)
      (completed : executeAll settings 1 (State.start session u) before u = (.done (.ok state), v))

/-- Without an end is the first play or what is done after it. -/
lemma endless_of_bind {α β : Type} {p : Play Float α} {f : α → Play Float β}
    (h : (p >>= f) s = (.endless, t)) :
    p s = (.endless, t) ∨ ∃ a u, p s = (.done a, u) ∧ f a u = (.endless, t) := by
  rw [bind_run] at h
  rcases hp : p s with ⟨a | f | _, u⟩ <;> rw [hp] at h
  · exact .inr ⟨a, u, rfl, h⟩
  · cases h
  · cases h
    exact .inl rfl

/-- Only a search can be without end. -/
lemma search_of_perform (h : perform settings index a state s = (.endless, t)) :
    ∃ p, a = .switchToPopup p ∧ switchToPopup settings state p s = (.endless, t) := by
  have searched : Within (Deeds (settings .browserTimeout) anyRecord)
      (∃ p, a = .switchToPopup p) (perform settings index a state) :=
    perform_deeds settings index state a (fun p hp => ⟨p, hp⟩) fun _ _ _ _ _ => trivial
  obtain ⟨p, rfl⟩ := (searched s).2 (congrArg Prod.fst h)
  have checked : Within Eq False (checkPreconditions state) := checkPreconditions_within state
  refine ⟨p, rfl, ?_⟩
  rcases endless_of_bind h with hung | ⟨⟨⟩, u, done, carried⟩
  · exact absurd (congrArg Prod.fst hung) (checked.ends s)
  · obtain rfl : s = u := checked.stage done
    exact carried

/-- Where some actions do not end one of them does not, and those before it are completed. -/
lemma executeAll_hung (h : executeAll settings index state actions s = (.endless, t)) :
    ∃ before a after next v, actions = before ++ a :: after ∧
      executeAll settings index state before s = (.done (.ok next), v) ∧
      perform settings (index + before.length) a next v = (.endless, t) := by
  induction actions generalizing index state s with
  | nil => cases h
  | cons a rest ih =>
    rcases execution settings index a state s with ⟨next, w, hp, r, u, hc, hx⟩ |
      ⟨f, page, w, hr, shown, u, hl, r, v, hc, hx⟩ |
      ⟨f, page, w, hr, shown, u, hl, g, v, hc, hx⟩ | ⟨w, hp, hx⟩
    · obtain ⟨before, b, after, last, v, rfl, completed, hung⟩ := ih ((bind_done hx).symm.trans h)
      refine ⟨a :: before, b, after, last, v, rfl, (bind_done hx).trans completed, ?_⟩
      rwa [List.length_cons, Nat.add_comm before.length, ← Nat.add_assoc]
    · cases (bind_done hx).symm.trans h
    · cases (bind_failed hx).symm.trans h
    · cases (bind_endless hx).symm.trans h
      exact ⟨[], a, rest, state, s, rfl, rfl, hp⟩

lemma inSession_hung_search {session : Session}
    (h : inSession settings session url actions s = (.endless, t)) :
    ∃ v r w, Browser.goto session.firstPage url s = (.done (), v) ∧
      (Point.ofStage .initial session.firstPage v).capture settings v = (.done r, w) ∧
      executeAll settings 1 (State.start session w) actions w = (.endless, t) := by
  have arrived : Within (Deeds 0 noRecord) False
      (Browser.goto session.firstPage url : Play Float Unit) := Browser.goto_deeds _ url
  rcases hg : Browser.goto session.firstPage url s with ⟨⟨⟩ | f | _, v⟩
  · have acted {r : Option Record} {w : Stage Float}
        (hi : (Point.ofStage .initial session.firstPage v).capture settings v = (.done r, w)) :
        executeAll settings 1 (State.start session w) actions w = (.endless, t) := by
      rcases endless_of_bind ((inSession_acting hg hi).symm.trans h) with
        hung | ⟨cause | state, x, hx, ending⟩
      · exact hung
      · cases ending
      · rcases endless_of_bind ending with hung | ⟨result, y, -, ⟨⟩⟩
        exact absurd (congrArg Prod.fst hung) ((finish_deeds settings state).ends x)
    rcases (Point.ofStage .initial session.firstPage v).captured settings with
      ⟨g, w, hc, -⟩ | ⟨w, hc, -, -⟩ | ⟨r, w, hc, -, -, -⟩
    · cases (inSession_begun hg hc).symm.trans h
    · exact ⟨v, _, w, rfl, hc, acted hc⟩
    · exact ⟨v, _, w, rfl, hc, acted hc⟩
  · cases (inSession_unnavigated hg).symm.trans h
  · exact absurd (congrArg Prod.fst hg) (arrived.ends s)

/-- Without an endpoint to wait for, a run without end is one in a session. -/
lemma inSession_of_hung {g : Given} (own : (settings .cdpUrl : String) = "")
    (read : g.read = .ok actions) (h : ofGiven settings url g s = (.endless, t)) :
    ∃ session u, Session.launch settings (opened s) = (.done session, u) ∧
      inSession settings session url actions u = (.endless, t) := by
  have course := (ofGiven_read settings url read s).symm.trans h
  have ended {e : Except RunCause RunResult} {v : Stage Float}
      (hw : withSession settings url actions (opened s) = (.done e, v)) : False := by
    rw [bind_done hw, withLedger_run] at course
    cases course
  rcases Session.launched settings (opened s) with
    ⟨session, owned, fresh, u, hl, calls, called, ahead⟩ | ⟨f, u, hl, -, -, -⟩ | ⟨u, -, remote, -⟩
  · have closed {result : Except RunCause RunResult} {v : Stage Float}
        (hs : settled (inSession settings session url actions) u = (.done result, v)) : False := by
      obtain ⟨w, hc, -⟩ := Session.closing owned fresh v
      exact ended (withSession_held hl hs hc)
    rcases hs : inSession settings session url actions u with ⟨result | f | _, v⟩
    · exact (closed (settled_done hs)).elim
    · exact (closed (settled_failed hs)).elim
    · rw [bind_endless (withSession_hung hl hs)] at course
      cases course
      exact ⟨session, u, hl, hs⟩
  · exact (ended (withSession_unlaunched hl)).elim
  · exact absurd own remote

lemma search_of_hung {g : Given} (own : (settings .cdpUrl : String) = "")
    (read : g.read = .ok actions) (h : ofGiven settings url g s = (.endless, t)) :
    ∃ p state v, Searches settings url (opened s) actions p state v ∧
      switchToPopup settings state p v = (.endless, t) := by
  obtain ⟨session, u, hl, hs⟩ := inSession_of_hung own read h
  obtain ⟨v, r, w, hg, hi, hx⟩ := inSession_hung_search hs
  obtain ⟨before, a, after, state, x, split, completed, hp⟩ := executeAll_hung hx
  obtain ⟨p, rfl, hung⟩ := search_of_perform hp
  exact ⟨p, state, x, ⟨session, w, ⟨u, hl, v, hg, r, hi⟩, before, after, split, completed⟩, hung⟩

lemma switch_of_search {p : PopupSwitch}
    (h : switchToPopup settings state p s = (.endless, t)) :
    ∃ w, (Popup.switch (.ofSettings settings p.timeout) w s).1 = .endless := by
  rcases endless_of_bind h with hung | ⟨page, u, -, ⟨⟩⟩
  exact ⟨_, congrArg Prod.fst hung⟩

end Run
end Rehearsal
