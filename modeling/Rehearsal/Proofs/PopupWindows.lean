import Rehearsal.Proofs.Doubles
import Rehearsal.Proofs.EndlessRuns
import Rehearsal.Proofs.PopupBudget
import Rehearsal.Proofs.WireForm

/-!
# Windows that pass

A search for popups ends when its window has passed, so it matters which windows a playbook may
ask for. Whatever is read is longer than nothing, and on an exact clock every window that is not
infinite passes after finitely many polls. A clock that shows doubles counts the seconds up to
`2 ^ 53`, and up to there a deadline comes as well; an infinite one never does.
-/

namespace Rehearsal

namespace Decimal

/-- The number itself. -/
def Binary.value (b : Binary) : ℚ :=
  (if b.negative then -1 else 1) * b.mantissa * 2 ^ b.exponent

/-- The exact value of a double, if it has one. -/
def exactly (x : Float) : Option ℚ :=
  match Shape.ofFloat x with
  | .finite b => some b.value
  | _ => none

/-- A double above zero is finite or infinite. -/
lemma shape_of_pos {x : Float} (h : Float.ofNat 0 < x) :
    Shape.ofFloat x = .infinite false ∨ ∃ b, Shape.ofFloat x = .finite b := by
  obtain ⟨p, q, hp, hq, less⟩ := lt_iff.mp h
  have zero : place (Float.ofNat 0).toModel.unpack = some 0 := by decide +kernel
  cases hp.symm.trans zero
  rw [Shape.unpack_ofFloat] at hq
  rcases shape : Shape.ofFloat x with b | n | _ <;> rw [shape] at hq
  · exact .inr ⟨b, rfl⟩
  · cases n with
    | true =>
      cases hq
      exact absurd less (by decide)
    | false => exact .inl rfl
  · cases hq

end Decimal

open Decimal Play

namespace Popup

section Looks

variable {τ : Type} [Clock τ] {plan : Plan τ} {w : Wanted} {due : τ} {s t : Stage τ} {n : Nat}

/-- Polls that go on are the later ones of the same search. -/
lemma Polls.drop (h : Polls plan w due s n t) (k : Nat) (le : k ≤ n) :
    Polls plan w due (s.slept plan.pollInterval k) (n - k) t := by
  induction h generalizing k with
  | none s =>
    obtain rfl : k = 0 := Nat.le_zero.mp le
    exact .none s
  | @again s t n unsignalled early later ih =>
    cases k with
    | zero => exact .again unsignalled early later
    | succ k =>
      rw [Nat.add_sub_add_right]
      exact ih k (Nat.le_of_succ_le_succ le)

lemma Polls.early (h : Polls plan w due s n t) {k : Nat} (less : k < n) :
    Clock.le due (s.slept plan.pollInterval k).now = false := by
  have later := h.drop k (le_of_lt less)
  obtain ⟨m, hm⟩ : ∃ m, n - k = m + 1 := ⟨n - k - 1, by omega⟩
  rw [hm] at later
  cases later with
  | again _ early _ => exact early

/-- A search is endless only if every look that there is patience for is before the deadline. -/
lemma early_of_endless (h : (switch plan w s).1 = .endless) {k : Nat} (less : k < s.patience) :
    Clock.le (deadline plan s) (looked plan s k).now = false := by
  obtain ⟨e, t, ends, decided⟩ := switch_ends plan w s
  rw [ends] at h
  obtain rfl : e = .endless := h
  cases decided with
  | endless _ polls => exact polls.early (by rwa [begun_patience])

end Looks

/-- On an exact clock every window passes, whatever happens meanwhile. -/
lemma switch_passes {plan : Plan ℚ} (positive : 0 < plan.pollInterval)
    (due : List (Nat × Step ℚ)) : ∃ n, ∀ (w : Wanted) (s : Stage ℚ), s.meanwhile = due →
      n < s.patience → (switch plan w s).1 ≠ .endless := by
  -- The initial delay, if there is any, takes the first of what is due.
  obtain ⟨n, past⟩ : ∃ n, ∀ s : Stage ℚ, s.meanwhile = due →
      deadline plan s ≤ (looked plan s n).now := by
    cases delayed : Clock.positive plan.initialDelay with
    | true =>
      obtain ⟨n, past⟩ := Stage.slept_past positive due.tail plan.window
      refine ⟨n, fun s same => past (begun plan s) ?_⟩
      rw [begun_eq, if_pos delayed, (s.sleep_settled _).meanwhile, same]
    | false =>
      obtain ⟨n, past⟩ := Stage.slept_past positive due plan.window
      refine ⟨n, fun s same => past (begun plan s) ?_⟩
      rw [begun_eq, if_neg (by rw [delayed]; exact Bool.false_ne_true), same]
  refine ⟨n, fun w s same patient endless => ?_⟩
  have early := early_of_endless endless patient
  rw [Clock.le_exact.mpr (past s same)] at early
  cases early

/-- The same plan with its spans as exact numbers. -/
structure Plan.Exact (plan : Plan Float) (exact : Plan ℚ) : Prop where
  window : exactly plan.window = some exact.window
  pollInterval : exactly plan.pollInterval = some exact.pollInterval
  initialDelay : exactly plan.initialDelay = some exact.initialDelay
  settleDelay : exactly plan.settleDelay = some exact.settleDelay
  loadTimeout : exact.loadTimeout = plan.loadTimeout
  pageTimeout : exact.pageTimeout = plan.pageTimeout

lemma exactly_ofFloat {x : Float} {b : Binary} (h : Shape.ofFloat x = .finite b) :
    exactly x = some b.value := by
  rw [exactly, h]

/-- With the default settings every window but an infinite one makes an exact plan. -/
lemma exact_standard {timeout : Option Float} (valid : ∀ x ∈ timeout, Float.ofNat 0 < x)
    (finite : ∀ x ∈ timeout, Shape.ofFloat x ≠ .infinite false) :
    ∃ exact, (Plan.ofSettings Settings.standard timeout).Exact exact ∧
      exact.pollInterval = 1 := by
  have window : ∃ b, Shape.ofFloat (timeout.getD 60) = .finite b := by
    cases timeout with
    | none => exact ⟨_, rfl⟩
    | some x => exact (shape_of_pos (valid x rfl)).resolve_left (finite x rfl)
  obtain ⟨b, hb⟩ := window
  have one : exactly 1 = some 1 := by
    have shape : Shape.ofFloat 1 = .finite ⟨false, 2 ^ 52, -52⟩ := by decide +kernel
    rw [exactly_ofFloat shape]
    norm_num [Binary.value]
  have three : exactly 3 = some 3 := by
    have shape : Shape.ofFloat 3 = .finite ⟨false, 3 * 2 ^ 51, -51⟩ := by decide +kernel
    rw [exactly_ofFloat shape]
    norm_num [Binary.value]
  exact ⟨{ window := b.value, pollInterval := 1, initialDelay := 3, settleDelay := 3
           loadTimeout := Settings.standard .popupLoadTimeout
           pageTimeout := Settings.standard .browserTimeout },
    ⟨exactly_ofFloat hb, one, three, three, rfl, rfl⟩, rfl⟩

section Doubles

variable {plan : Plan Float} {s : Stage Float}

/-- A clock that shows doubles counts the seconds of a search: its deadline is at most
`2 ^ 53`, it is zero or later once nothing is due any more, and there is patience for every place
up to there. -/
structure Counted (plan : Plan Float) (s : Stage Float) : Prop where
  soon : deadline plan s ≤ 9007199254740992
  started : 0 ≤ (looked plan s (begun plan s).meanwhile.length).now
  patient : (begun plan s).meanwhile.length + 1076 * 2 ^ 52 < s.patience

/-- Pauses of a second count up, place by place. -/
lemma slept_place (undue : s.meanwhile = []) {p : Int} (hp : place s.now.toModel.unpack = some p)
    (least : 0 ≤ p) (most : p ≤ top) (n : Nat) :
    ∃ q, place (s.slept 1 n).now.toModel.unpack = some q ∧ min (p + n) top ≤ q ∧ q ≤ top := by
  have steady : s.Steady := by
    unfold Stage.Steady
    rw [undue]
    nofun
  induction n with
  | zero => exact ⟨p, hp, by omega, most⟩
  | succ n ih =>
    obtain ⟨q, hq, low, high⟩ := ih
    obtain ⟨r, hr, later, bound⟩ := counted_up hq (by unfold top at *; omega) high
    refine ⟨r, ?_, by omega, bound⟩
    rw [Stage.slept_last, (steady.slept 1 n).sleep_now]
    exact hr

/-- Where the seconds are counted the search ends. -/
lemma switch_counts (second : plan.pollInterval = 1) (counted : Counted plan s) (w : Wanted) :
    (switch plan w s).1 ≠ .endless := by
  intro endless
  obtain ⟨soon, started, patient⟩ := counted
  generalize due : (begun plan s).meanwhile.length = n at started patient
  obtain ⟨d, hd, most⟩ := place_of_le_top soon
  obtain ⟨p, hp, least⟩ := place_of_nonneg started
  -- A look that is late ends the search, so it is enough to find one.
  have late {k : Nat} {q : Int} (within : k ≤ 1076 * 2 ^ 52)
      (hq : place (looked plan s (n + k)).now.toModel.unpack = some q) (past : d ≤ q) :
      False := by
    have early := early_of_endless endless (k := n + k) (by omega)
    have ended : Clock.le (deadline plan s) (looked plan s (n + k)).now = true :=
      decide_eq_true (le_iff.mpr ⟨d, q, hd, hq, past⟩)
    rw [ended] at early
    cases early
  rcases le_or_gt p top with below | beyond
  · have undue : (looked plan s n).meanwhile = [] := by
      rw [looked, Stage.slept_meanwhile, ← due, List.drop_length]
    obtain ⟨k, hk⟩ : ∃ k : Nat, (k : Int) = top := ⟨1076 * 2 ^ 52, rfl⟩
    obtain ⟨q, hq, low, -⟩ := slept_place undue hp least below k
    have same : (looked plan s n).slept 1 k = looked plan s (n + k) := by
      rw [looked, looked, second, Stage.slept_add]
    rw [same] at hq
    exact late (by unfold top at hk; omega) hq (by omega)
  · exact late (Nat.zero_le _) hp (most.trans (le_of_lt beyond))

/-- A deadline beyond `2 ^ 53` never comes, as counting up never gets there. -/
lemma switch_hangs {w : Wanted} (second : plan.pollInterval = 1)
    (unmatched : existing s w = .ok none) (undue : (begun plan s).meanwhile = [])
    (silent : ∀ k, signal (looked plan s k) w = .ok none) {p d : Int}
    (hp : place (begun plan s).now.toModel.unpack = some p) (least : 0 ≤ p) (most : p ≤ top)
    (hd : place (deadline plan s).toModel.unpack = some d) (beyond : top < d) :
    (switch plan w s).1 = .endless := by
  have early (k : Nat) : Clock.le (deadline plan s) (looked plan s k).now = false := by
    obtain ⟨q, hq, -, bound⟩ := slept_place undue hp least most k
    rw [← second] at hq
    refine decide_eq_false fun late => ?_
    obtain ⟨d', q', hd', hq', le⟩ := le_iff.mp late
    cases hd.symm.trans hd'
    cases hq.symm.trans hq'
    omega
  have hung : countedPoll plan w (deadline plan s) 0 s.patience (begun plan s) =
      (.endless, looked plan s s.patience) := by
    rw [← Nat.add_zero s.patience, countedPoll_slept _ (fun k _ => silent k) fun k _ => early k]
    rfl
  have polled : poll plan w (deadline plan s) (begun plan s).patience (begun plan s) =
      (.endless, looked plan s s.patience) := by
    rw [begun_patience, ← countedPoll_uncounted plan w _ 0, bind_endless hung]
  rw [switch_polling unmatched, bind_endless polled]

end Doubles

end Popup

section Unscripted

variable {τ : Type} {s : Stage τ} {id : Nat} {page : Page (Effect τ)}
  (shown : s.page? id = some page)

include shown

lemma Stage.updatePage_same {f : Page (Effect τ) → Page (Effect τ)} (same : f page = page) :
    s.updatePage id f = s := by
  have kept : s.pages.modify id f = s.pages := by
    refine List.ext_getElem? fun i => ?_
    rw [List.getElem?_modify]
    by_cases h : id = i
    · subst h
      have found : s.pages[id]? = some page := shown
      rw [found]
      simp [same]
    · simp [h]
  rw [Stage.updatePage, kept]

variable [Clock τ] (unscripted : page.script = [])

include unscripted

lemma Browser.followScript_unscripted (name : String) :
    Browser.followScript id name s = (.done (), s) := by
  unfold Browser.followScript
  rw [shown]
  dsimp only
  rw [unscripted, Stage.updatePage_same shown (by rw [Browser.takeStep, ← unscripted])]
  rfl

/-- A screenshot of a page that nothing happens to leaves a call and perhaps a file behind. -/
lemma Browser.screenshot_unscripted (opened : s.isClosed id = false) (path : Path)
    (c : Capture) : ∃ e files, Browser.screenshot id path c s =
      (e, { s.note (.page id (.screenshot c)) with files }) := by
  have called : Browser.call id (.screenshot c) s =
      (.done (), s.note (.page id (.screenshot c))) := by
    unfold Browser.call Browser.enter
    rw [bind_done (change_run _ s), bind_done (look_run _ _)]
    have still : (s.note (.page id (.screenshot c))).isClosed id = false := opened
    rw [still]
    exact Browser.followScript_unscripted (s := s.note _) shown unscripted _
  unfold Browser.screenshot
  rw [bind_done called]
  unfold Browser.saveImage
  split
  · exact ⟨_, s.files, rfl⟩
  · exact ⟨_, s.files, rfl⟩
  · split
    · exact ⟨_, _, rfl⟩
    · exact ⟨_, s.files, rfl⟩

/-- A capture of such a page, at a moment of the calendar, leaves no more than that behind. -/
lemma Screenshot.Camera.record_unscripted (opened : s.isClosed id = false) {m : Moment}
    (told : Clock.moment s.epoch s.now = .ok m) (camera : Camera) (caption : Caption)
    (attempt : Option Int) : ∃ r files journal ledger,
      camera.record (some id) caption attempt s = (.done r, { s with files, journal, ledger }) := by
  have moment {t : Stage τ} (epoch : t.epoch = s.epoch) (now : t.now = s.now) :
      Play.moment t = (.done m, t) := by
    unfold Play.moment
    rw [epoch, now, told]
  let path := camera.fileFor caption.step attempt m
  rcases camera.shoot_cases id path s with ⟨f, -, shot⟩ | ⟨files, -, shot⟩
  · exact ⟨none, s.files, s.journal, s.ledger,
      record_none (capture_unshot opened (moment rfl rfl) shot)⟩
  · obtain ⟨e, saved, pictured⟩ := Browser.screenshot_unscripted (s := { s with files }) shown
      unscripted opened path (camera.exposure path)
    rw [pictured] at shot
    cases e with
    | done _ =>
      exact ⟨_, saved, _, _, record_some (capture_shot opened (moment rfl rfl) shot)
        (moment rfl rfl)⟩
    | failed f =>
      exact ⟨none, saved, _, s.ledger,
        record_none (capture_unshot opened (moment rfl rfl) shot)⟩
    | endless =>
      have quiet : Within (Deeds 0 noRecord) False
          (Browser.screenshot id path (camera.exposure path) : Play τ Unit) :=
        Browser.screenshot_deeds id path _
      exact absurd (congrArg Prod.fst pictured) (quiet.ends _)

end Unscripted

namespace Run

variable {settings : Settings} {url : Value} {index : Nat} {a : Action} {state : State}
  {actions : List Action} {s t : Stage Float}

lemma raw_of_itemsOf {v : Value} {items : List Item} (h : itemsOf v = .ok items) :
    ∀ i ∈ items, ∃ value, i = .raw value := by
  cases v with
  | list _ | text _ | object _ =>
    cases h
    intro i mem
    obtain ⟨part, -, rfl⟩ := List.mem_map.mp mem
    exact ⟨_, rfl⟩
  | _ => cases h

/-- What is read from data is valid. -/
lemma valid_of_data {v : Value} (read : (Given.data v).read = .ok actions) :
    ∀ a ∈ actions, a.Valid := by
  unfold Given.read at read
  dsimp only at read
  split at read
  · cases read
  · next items hi =>
    intro a mem
    have found : Except.ok a ∈ items.map fun i => (Registry.standard.parse i).1 := by
      rw [readItems_ok read]
      exact List.mem_map_of_mem mem
    obtain ⟨i, given, same⟩ := List.mem_map.mp found
    obtain ⟨value, rfl⟩ := raw_of_itemsOf hi i given
    exact Registry.valid_of_parse same

/-- A world in which nothing happens. -/
def idle (patience : Nat) : Stage Float := { now := 0, patience }

/-- The stage after the first navigation. -/
def arrived (patience : Nat) : Stage Float :=
  ((Session.launch Settings.standard >>= fun session =>
    Browser.goto session.firstPage (.text "https://x")) (idle patience)).2

lemma idle_begun (n : Nat) : ∃ session files journal ledger, session.firstPage = 0 ∧
    Begun Settings.standard (.text "https://x") (idle n) session
      { arrived n with files, journal, ledger } := by
  obtain ⟨session, t, hl, hs, hg⟩ : ∃ session t,
      Session.launch Settings.standard (idle n) = (.done session, t) ∧ session.firstPage = 0 ∧
      Browser.goto session.firstPage (.text "https://x") t = (.done (), arrived n) :=
    ⟨_, _, rfl, rfl, rfl⟩
  obtain ⟨m, told⟩ : ∃ m, Clock.moment (arrived n).epoch (arrived n).now = .ok m := by
    have shown : (Clock.moment 1714564800 (0 : Float)).isOk = true := by decide +kernel
    have epoch : (arrived n).epoch = 1714564800 := rfl
    have now : (arrived n).now = 0 := rfl
    rw [epoch, now]
    rcases h : Clock.moment 1714564800 (0 : Float) with f | m
    · rw [h] at shown
      cases shown
    · exact ⟨m, rfl⟩
  obtain ⟨page, shown, unscripted⟩ : ∃ page,
      (arrived n).page? 0 = some page ∧ page.script = [] := ⟨_, rfl, rfl⟩
  obtain ⟨r, files, journal, ledger, captured⟩ :=
    Screenshot.Camera.record_unscripted shown unscripted rfl told
      (.ofSettings Settings.standard) { step := "initial" } none
  exact ⟨session, files, journal, ledger, hs, t, hl, arrived n, hg, r, hs ▸ captured⟩

/-- Nothing is seen on the stage of the baseline. -/
lemma signal_baseline (s : Stage Float) (w : Popup.Wanted)
    (h : w.baseline = ⟨s.watch.marker, s.pageCount⟩) : Popup.signal s w = .ok none := by
  have created : s.watch.createdSince s.watch.marker = [] := by
    unfold Watch.createdSince Watch.marker
    dsimp only
    rw [if_neg (Int.natCast_nonneg _).not_gt, Int.toNat_natCast, List.drop_length, List.map_nil]
  unfold Popup.signal Popup.announced Popup.risen
  rw [h]
  dsimp only
  rw [created]
  exact if_pos (le_refl _)

/-- Where nothing is due and the clock shows zero, the first poll is three seconds later. -/
lemma begun_standard {u : Stage Float} (undue : u.meanwhile = []) (start : u.now = 0)
    (timeout : Option Float) : Popup.begun (.ofSettings Settings.standard timeout) u =
      { u.note (.sleep 3) with now := 0 + 3 } := by
  have positive : Clock.positive (3 : Float) = true := by decide +kernel
  have begun : Popup.begun (.ofSettings Settings.standard timeout) u = u.sleep 3 :=
    (Popup.begun_eq _ u).trans (if_pos positive)
  rw [begun, Stage.sleep_undue undue, start]
  rfl

/-- On an exact clock every search that data can ask for ends after finitely many polls, whatever
happens meanwhile, unless its window is infinite. On a clock that shows doubles a run ends if it
counts the seconds of the searches that the run begins. -/
theorem finite_windows_pass {v : Value} (read : (Given.data v).read = .ok actions)
    (finite : ∀ p, .switchToPopup p ∈ actions → ∀ x ∈ p.timeout,
      Shape.ofFloat x ≠ .infinite false) :
    (∀ p, .switchToPopup p ∈ actions → ∃ plan : Popup.Plan ℚ,
      (Popup.Plan.ofSettings Settings.standard p.timeout).Exact plan ∧
      ∀ due, ∃ n, ∀ (w : Popup.Wanted) (s : Stage ℚ), s.meanwhile = due → n < s.patience →
        (Popup.switch plan w s).1 ≠ .endless) ∧
    ∀ (url : Value) (s : Stage Float), (∀ p state u,
      Searches Settings.standard url (opened s) actions p state u →
        Popup.Counted (.ofSettings Settings.standard p.timeout) u) →
      ∃ r t, ofGiven Settings.standard url (.data v) s = (.done r, t) := by
  constructor
  · intro p mem
    have valid : ∀ x ∈ p.timeout, Float.ofNat 0 < x := valid_of_data read _ mem
    obtain ⟨plan, exact, second⟩ := Popup.exact_standard valid (finite p mem)
    refine ⟨plan, exact, Popup.switch_passes ?_⟩
    rw [second]
    exact one_pos
  · intro url s counted
    rcases ran Settings.standard url s read with
      ⟨f, t, -, -, -, -, hr⟩ | ⟨session, t, -, -, -, -, result, u, -, x, -, -, hr⟩ | ⟨t, hr, -, -⟩
    · exact ⟨_, t, hr⟩
    · exact ⟨_, x, hr⟩
    · obtain ⟨p, state, u, begun, hung⟩ := search_of_hung rfl read hr
      obtain ⟨w, endless⟩ := switch_of_search hung
      exact absurd endless (Popup.switch_counts rfl (counted p state u begun) w)

/-- Data that asks for a popup within two seconds. -/
def brief : Value :=
  .list [.object [("type", .text "switchToPopup"), ("timeoutSeconds", .int 2)]]

/-- A run that searches for two seconds ends where nothing happens. -/
theorem finite_windows_pass_brief :
    (∃ plan : Popup.Plan ℚ, (Popup.Plan.ofSettings Settings.standard (some 2)).Exact plan ∧
      ∀ due, ∃ n, ∀ (w : Popup.Wanted) (s : Stage ℚ), s.meanwhile = due → n < s.patience →
        (Popup.switch plan w s).1 ≠ .endless) ∧
    ∀ n, 1076 * 2 ^ 52 < n → ∃ r t,
      ofGiven Settings.standard (.text "https://x") (.data brief) (idle n) = (.done r, t) := by
  have read : (Given.data brief).read = .ok [.switchToPopup { timeout := some 2 }] := rfl
  obtain ⟨exact, ends⟩ := finite_windows_pass read (by
    intro p mem x hx
    cases List.mem_singleton.mp mem
    cases hx
    decide +kernel)
  refine ⟨exact _ (List.mem_singleton_self _), fun n patient => ends _ _ ?_⟩
  -- The only search begins where the first navigation has led.
  rintro p state v ⟨session, u, ⟨t, hl, x, hg, r, hi⟩, before, after, split, completed⟩
  obtain ⟨session', files, journal, ledger, -, t', hl', x', hg', r', hi'⟩ := idle_begun n
  cases hl.symm.trans hl'
  cases hg.symm.trans hg'
  cases hi.symm.trans hi'
  cases before with
  | cons b before => cases before <;> cases split
  | nil =>
    cases split
    cases completed
    have delayed := begun_standard (u := { arrived n with files, journal, ledger }) rfl rfl (some 2)
    constructor
    · rw [Popup.deadline, delayed]
      change (0 + 3 + 2 : Float) ≤ 9007199254740992
      decide +kernel
    · rw [Popup.looked, delayed]
      change (0 : Float) ≤ 0 + 3
      decide +kernel
    · rw [delayed]
      change 0 + 1076 * 2 ^ 52 < n
      rwa [Nat.zero_add]

/-- Data that asks for a popup as long as it takes. -/
def unbounded : Value :=
  .list [.object [("type", .text "switchToPopup"), ("timeout", .text "inf")]]

/-- A double that is infinite. -/
def infinity : Float := Float.ofBits 0x7ff0000000000000

/-- A run's first action never ends if it searches within an infinite window, the clock shows
zero and nothing is due. -/
lemma search_hangs {u : Stage Float} (undue : u.meanwhile = []) (start : u.now = 0)
    (session : Session) : ∃ t, switchToPopup Settings.standard (State.start session u)
      { timeout := some infinity } u = (.endless, t) := by
  let plan := Popup.Plan.ofSettings Settings.standard (some infinity)
  let w : Popup.Wanted :=
    { current := session.firstPage, baseline := ⟨u.watch.marker, u.pageCount⟩, domains := []
      required := false }
  have delayed := begun_standard undue start (some infinity)
  have undelayed : (Popup.begun plan u).meanwhile = [] := by
    rw [delayed]
    exact undue
  have silent (k : Nat) : Popup.signal (Popup.looked plan u k) w = .ok none := by
    obtain ⟨now, journal, same⟩ := Stage.slept_undue undelayed plan.pollInterval k
    rw [Popup.looked, same, delayed]
    exact signal_baseline u w rfl
  have reading : place (Popup.begun plan u).now.toModel.unpack =
      some (height (3 * 2 ^ 51) (-51)) := by
    rw [delayed]
    change place (0 + 3 : Float).toModel.unpack = _
    decide +kernel
  have window : place (Popup.deadline plan u).toModel.unpack = some (2047 * 2 ^ 52) := by
    rw [Popup.deadline, delayed]
    change place (0 + 3 + infinity).toModel.unpack = _
    decide +kernel
  have hung : (Popup.switch plan w u).1 = .endless :=
    Popup.switch_hangs rfl rfl undelayed silent reading (by decide) (by decide) window (by decide)
  have wanted : Popup.domainsOr (popupDomains Settings.standard { timeout := some infinity })
      Settings.standard = [] := rfl
  unfold switchToPopup State.goOn
  rw [wanted]
  exact ⟨_, bind_endless (Prod.ext hung rfl)⟩

/-- A window may be infinite, and then a run in a world in which nothing happens has no end,
however long it is waited for. -/
theorem infinite_window_stays :
    (Given.data unbounded).read = .ok [.switchToPopup { timeout := some infinity }] ∧
    Shape.ofFloat infinity = .infinite false ∧
    ∀ n, ∃ t, ofGiven Settings.standard (.text "https://x") (.data unbounded) (idle n) =
      (.endless, t) := by
  have read : (Given.data unbounded).read = .ok [.switchToPopup { timeout := some infinity }] :=
    rfl
  refine ⟨read, by decide +kernel, fun n => ?_⟩
  obtain ⟨session, files, journal, ledger, first, t, hl, v, hg, r, hi⟩ := idle_begun n
  let u := { arrived n with files, journal, ledger }
  obtain ⟨x, hung⟩ := search_hangs (u := u) rfl rfl session
  have ready : checkPreconditions (State.start session u) u = (.done (), u) := by
    have current : (State.start session u).current = 0 := first
    have shown : u.isClosed 0 = false := rfl
    have present : 0 ∈ u.openPages :=
      List.mem_filter.mpr ⟨List.mem_filter.mpr ⟨List.mem_range.mpr Nat.zero_lt_one, rfl⟩, rfl⟩
    have counted : u.pageCount ≠ 0 := (List.length_pos_of_mem present).ne'
    unfold checkPreconditions
    simp [bind_run, current, shown, counted]
  have acting : perform Settings.standard 1 (.switchToPopup { timeout := some infinity })
      (State.start session u) u = (.endless, x) := (bind_done ready).trans hung
  have acted : executeAll Settings.standard 1 (State.start session u)
      [.switchToPopup { timeout := some infinity }] u = (.endless, x) :=
    bind_endless (execute_endless acting)
  refine ⟨x, ?_⟩
  rw [ofGiven_read _ _ read]
  exact bind_endless (withSession_hung hl (inSession_hung hg hi acted))

end Run
end Rehearsal
