import Rehearsal.Proofs.Diagnosis
import Rehearsal.Proofs.RunOutcome

/-!
# What comes after the first failing action

Two lists of actions that share a prefix up to an action that fails make the same run: the
same failure, the same calls and the same stage at the end. After the failure there is only
its diagnosis and the end of the session.
-/

namespace Rehearsal

open Play

namespace Run

variable {settings : Settings} {url : Value} {xs ys zs : List Item} {a : Item}
  {actions more : List Action} {s t : Stage Float}

lemma readItems_ok (h : readItems xs = .ok actions) :
    xs.map (fun i => (Registry.standard.parse i).1) = actions.map .ok := by
  unfold readItems at h
  split at h
  · cases h
  · next as ha =>
    cases h
    exact (Registry.parseItems_ok _ _ _).1 ha

/-- Lists that share their first items share their first actions. -/
lemma readItems_shared (h : readItems (xs ++ a :: ys) = .ok actions)
    (k : readItems (xs ++ a :: zs) = .ok more) : ∃ before b rest rest',
      actions = before ++ b :: rest ∧ more = before ++ b :: rest' ∧ before.length = xs.length := by
  have injective : Function.Injective (Except.ok : Action → Except ParseFault Action) :=
    fun _ _ => Except.ok.inj
  have read (zs : List Item) {as : List Action} (h : readItems (xs ++ a :: zs) = .ok as) :
      ∃ before b rest, as = before ++ b :: rest ∧
        xs.map (fun i => (Registry.standard.parse i).1) = before.map .ok ∧
        (Registry.standard.parse a).1 = .ok b := by
    have whole := readItems_ok h
    rw [List.map_append, List.map_cons] at whole
    obtain ⟨before, tail, rfl, hb, ht⟩ := List.map_eq_append_iff.1 whole.symm
    obtain ⟨b, rest, rfl, hp, -⟩ := List.map_eq_cons_iff.1 ht
    exact ⟨before, b, rest, rfl, hb.symm, hp.symm⟩
  obtain ⟨before, b, rest, rfl, hb, hp⟩ := read ys h
  obtain ⟨before', b', rest', rfl, hb', hp'⟩ := read zs k
  obtain rfl := injective.list_map (hb.symm.trans hb')
  obtain rfl := injective (hp.symm.trans hp')
  exact ⟨before, b, rest, rest', rfl, rfl, by simpa using (congrArg List.length hb).symm⟩

/-- How a run ends with an action whose failure is documented: the actions before it are
completed, it raises its failure, and then there is the diagnosis and the end of the session. -/
inductive Aftermath (settings : Settings) (url : Value) (s : Stage Float) (before : List Action)
    (a : Action) (t : Stage Float) : Prop
  | intro (session : Session) (u : Stage Float) (begun : Begun settings url s session u)
      (next : State) (v : Stage Float)
      (hx : executeAll settings 1 (State.start session u) before u = (.done (.ok next), v))
      (f : Failure) (page : Nat) (w : Stage Float)
      (hr : Raised settings (1 + before.length) a next v f page w)
      (title shot : List (Call Float)) (ht : AtMost (fun c => c = .page page .title) title)
      (hs : AtMost (fun c => ∃ id shot, c = .page id (.screenshot shot)) shot)
      (trace : t.trace = w.trace ++ title ++ shot ++
        [.service .closeContext, .service .closeBrowser, .service .stop])

/-- A run that an action breaks, from the launch of its session to the close. -/
inductive Broken (settings : Settings) (url : Value) (s : Stage Float) (actions : List Action)
    (cause : RunCause) (records : List Record) (t : Stage Float) : Prop
  | intro (session : Session) (u : Stage Float) (begun : Begun settings url s session u)
      (v : Stage Float)
      (hx : executeAll settings 1 (State.start session u) actions u = (.done (.error cause), v))
      (kept : v.records = records) (closed : Session)
      (hc : Session.close session v = (.done closed, t))
      (closing : Stage.Called [.service .closeContext, .service .closeBrowser, .service .stop] v t)

variable {index : Int} {type error : String} {code : Option String} {records : List Record}

lemma broken_of_run {g : Given} (hg : g.read = .ok actions)
    (h : ofGiven settings url g s =
      (.done (.error ⟨.actionFailed index type error code, records⟩), t)) :
    Broken settings url (opened s) actions (.actionFailed index type error code) records t := by
  rcases ran settings url s hg with
    ⟨f, u, -, calls, -, -, hr⟩ |
    ⟨session, u, hl, calls, -, -, result, v, hs, w, hc, closing, hr⟩ | ⟨u, hr, -⟩
  · cases hr.symm.trans h
  · have same := hr.symm.trans h
    cases result with
    | ok result => cases same
    | error cause =>
      cases same
      rcases settled_cases hs with hx | ⟨f, -, he⟩
      · rcases inSession_error hx with ⟨f, x, -, he⟩ | ⟨x, r, y, pts, hgo, hi, ha⟩
        · cases he
        · exact ⟨session, y, ⟨u, hl, x, hgo, r, hi⟩, v, ha.run, rfl, _, hc, closing⟩
      · cases he
  · cases hr.symm.trans h

lemma run_of_broken {g : Given} (hg : g.read = .ok actions) {cause : RunCause}
    (h : Broken settings url (opened s) actions cause records t) :
    ofGiven settings url g s = (.done (.error ⟨cause, records⟩), t) := by
  obtain ⟨session, u, ⟨w, hl, x, hgo, r, hi⟩, v, hx, rfl, closed, hc, closing⟩ := h
  have held := withSession_held hl (settled_done (inSession_stopped hgo hi hx)) hc
  have same : t.records = v.records := congrArg List.reverse closing.ledger
  rw [ofGiven_read settings url hg, bind_done held, withLedger_run, same]
  rfl

/-- The first action that fails ends the actions, whatever was to come after it. -/
lemma Broken.shared {before rest : List Action} {b : Action} (rest' : List Action)
    (hn : index = 1 + before.length)
    (h : Broken settings url s (before ++ b :: rest) (.actionFailed index type error code) records
      t) :
    Broken settings url s (before ++ b :: rest') (.actionFailed index type error code) records
      t := by
  obtain ⟨session, u, begun, v, hx, kept, closed, hc, closing⟩ := h
  obtain ⟨next, w, hb, ha⟩ := executeAll_prefix hn hx
  refine ⟨session, u, begun, v, ?_, kept, closed, hc, closing⟩
  rw [executeAll_append, bind_done hb]
  exact bind_done ha

lemma Broken.aftermath {before rest : List Action} {b : Action} (hn : index = 1 + before.length)
    (h : Broken settings url s (before ++ b :: rest) (.actionFailed index type error code) records
      t) :
    Aftermath settings url s before b t := by
  obtain ⟨session, u, begun, v, hx, kept, closed, hc, closing⟩ := h
  obtain ⟨next, w, hb, ha⟩ := executeAll_prefix hn hx
  obtain ⟨f, page, x, shown, y, r, hr, hl, hd⟩ := execute_error ha
  obtain ⟨title, shot, trace, asked, once⟩ := diagnosis_trace hl hd
  refine ⟨session, u, begun, next, w, hb, f, page, x, hr, title, shot, asked.mono fun _ => And.left,
    once, ?_⟩
  rw [closing.trace, trace]
  simp only [List.append_assoc]

/-- The number of the action that broke a run. -/
def brokenBy : Except RunFailure RunResult → Option Int
  | .error ⟨.actionFailed index .., _⟩ => some index
  | _ => none

/-- An action that fails ends a run: a run of other items after it has the same failure with
the same ledger, makes the same calls and leaves the same stage, and after the failure there
is only its diagnosis, one screenshot at most and the end of the session. -/
theorem failed_run_ignores_rest (xs : List Item)
    (h : ofItems settings url (xs ++ a :: ys) s =
      (.done (.error ⟨.actionFailed (xs.length + 1) type error code, records⟩), t))
    (parses : readItems (xs ++ a :: zs) = .ok more) :
    ofItems settings url (xs ++ a :: zs) s =
      (.done (.error ⟨.actionFailed (xs.length + 1) type error code, records⟩), t) ∧
    ∃ before b rest, more = before ++ b :: rest ∧ before.length = xs.length ∧
      Aftermath settings url (opened s) before b t := by
  rcases hy : readItems (xs ++ a :: ys) with cause | actions
  · have unread := (ofItems_unread settings url hy s).symm.trans h
    have code := read_code (g := .items (xs ++ a :: ys)) hy
    cases unread
    exact absurd code (by simp only [RunCause.code]; decide)
  · obtain ⟨before, b, rest, rest', rfl, rfl, hlen⟩ := readItems_shared hy parses
    have hn : (xs.length + 1 : Int) = 1 + before.length := by omega
    have broken := broken_of_run (g := .items (xs ++ a :: ys)) hy h
    exact ⟨run_of_broken (g := .items (xs ++ a :: zs)) parses (broken.shared rest' hn),
      before, b, rest', rfl, hlen, broken.aftermath hn⟩

/-- Where nothing can be clicked it does not matter that a return to the first page was to
come next. -/
theorem failed_run_ignores_rest_click : ∃ type error code records t,
    ofItems Settings.standard (.text "https://x")
      ([.ready .switchToMain] ++ .ready (.click { xpath := "//a" }) :: [.ready .switchToMain])
      { now := 0 } = (.done (.error ⟨.actionFailed (([.ready .switchToMain] : List Item).length + 1)
        type error code, records⟩), t) ∧
    ofItems Settings.standard (.text "https://x")
      ([.ready .switchToMain] ++ .ready (.click { xpath := "//a" }) :: [])
      { now := 0 } = (.done (.error ⟨.actionFailed (([.ready .switchToMain] : List Item).length + 1)
        type error code, records⟩), t) ∧
    ∃ before b rest, [.switchToMain, .click { xpath := "//a" }] = before ++ b :: rest ∧
      before.length = ([.ready .switchToMain] : List Item).length ∧
      Aftermath Settings.standard (.text "https://x") (opened { now := 0 }) before b t := by
  have index : (ofItems Settings.standard (.text "https://x")
      ([.ready .switchToMain] ++ .ready (.click { xpath := "//a" }) :: [.ready .switchToMain])
      { now := 0 }).1.value?.bind brokenBy =
        some (([.ready .switchToMain] : List Item).length + 1 : Int) := by decide +kernel
  rcases h : ofItems Settings.standard (.text "https://x")
      ([.ready .switchToMain] ++ .ready (.click { xpath := "//a" }) :: [.ready .switchToMain])
      { now := 0 } with ⟨(⟨cause, records⟩ | result) | f | _, t⟩ <;> rw [h] at index
  · cases cause with
    | actionFailed number type error code =>
      obtain rfl := Option.some.inj index
      exact ⟨type, error, code, records, t, h,
        failed_run_ignores_rest [.ready .switchToMain] h rfl⟩
    | _ => cases index
  · cases index
  · cases index
  · cases index

end Run

end Rehearsal
