import Rehearsal.Proofs.AddressParts
import Rehearsal.Proofs.ClickCourse
import Rehearsal.Proofs.HintSources
import Rehearsal.Proofs.TargetDeeds

/-!
# Where an account is entered

Only the account chooser's way enters anything during a click. It looks at the address of the page
once, then counts the fields and enters the account in the first of them; no other call stands
between. So an account is entered where the address that was looked at mentions the host of its
site, in its authority or merely around it.
-/

namespace Rehearsal

open Play

variable {τ α : Type}

/-- A call or a pause, and the stage on which it is made. -/
structure Cue (τ : Type) where
  stage : Stage τ
  call : Call τ

/-- The page is one of the host: that stands in the authority of its address. -/
def Stage.At (s : Stage τ) (page : Nat) (host : String) : Prop :=
  ∃ url, s.url page = .text url ∧ Address.Hosted url host

lemma Stage.at_iff {s : Stage τ} {page : Nat} {host url : String} (h : s.url page = .text url) :
    s.At page host ↔ Address.Hosted url host := by
  constructor
  · rintro ⟨other, same, hosted⟩
    obtain rfl := Value.text.inj (h.symm.trans same)
    exact hosted
  · exact fun hosted => ⟨url, h, hosted⟩

variable [Clock τ]

/-- From one stage to another by nothing but these pauses and calls, each on the stage that the one
before it has left. -/
inductive Cued : Stage τ → List (Cue τ) → Stage τ → Prop
  | none (s : Stage τ) : Cued s [] s
  | pause {s t : Stage τ} {log : List (Cue τ)} (span : τ) (later : Cued (s.sleep span) log t) :
      Cued s (⟨s, .sleep span⟩ :: log) t
  | call {s t : Stage τ} {log : List (Cue τ)} {α : Type} {c : Call τ} {p : Play τ α}
      (asked : Target.Asks c p) (later : Cued (p s).2 log t) : Cued s (⟨s, c⟩ :: log) t

namespace Cued

variable {s t u : Stage τ} {log more : List (Cue τ)}

lemma trans (h : Cued s log t) (k : Cued t more u) : Cued s (log ++ more) u := by
  induction h with
  | none => exact k
  | pause span _ ih => exact .pause span (ih k)
  | call asked _ ih => exact .call asked (ih k)

/-- The journal has exactly these calls. -/
lemma calls (h : Cued s log t) : t.calls = s.calls ++ log.map (·.call) := by
  induction h with
  | none => rw [List.map_nil, List.append_nil]
  | pause span _ ih => rw [ih, Stage.sleep_calls, List.append_assoc, List.map_cons]; rfl
  | call asked _ ih => rw [ih, (asked.made _).1, List.append_assoc, List.map_cons]; rfl

lemma head {x : Cue τ} (h : Cued s (x :: log) t) : x.stage = s := by
  cases h <;> rfl

end Cued

/-- The stages of an exchange are told by its calls. -/
lemma Exchanged.cued {s t : Stage τ} {log : List (Exchange τ)} (h : Exchanged s log t) :
    ∃ cues, Cued s cues t ∧ cues.map (·.call) = log.map (·.call) := by
  induction h with
  | none s => exact ⟨[], .none s, rfl⟩
  | pause span _ ih =>
    obtain ⟨cues, cued, same⟩ := ih
    exact ⟨_, .pause span cued, by rw [List.map_cons, List.map_cons, same]⟩
  | call asked _ ih =>
    obtain ⟨cues, cued, same⟩ := ih
    exact ⟨_, .call asked cued, by rw [List.map_cons, List.map_cons, same]⟩

namespace AccountChooser

/-- The field in which an account is entered. -/
def field : Locator := { selector := identifierField, index := some 0 }

/-- What an account chooser goes by when it enters its account on the second of these stages: on the
first one its site was found and the address showed the identifier form, and nothing but counting
the fields lies between them. -/
structure Entry (sites : List Site) (page : Nat) (c : Click) (look s : Stage τ)
    (a : AccountChooser) : Prop where
  site : Site.find sites (look.url page) = .ok (some (.accountChooser a))
  login : isLoginPage (look.url page) = .ok true
  account : a.account ≠ ""
  asked : selectsAccount c.xpath = true
  counted : ∃ n, Browser.count page field look = (.done n, s) ∧ n ≠ 0

/-- What is entered is the account of a chooser, right after its fields have been counted. -/
def Guarded (sites : List Site) (page : Nat) (c : Click) (log : List (Cue τ)) : Prop :=
  ∀ before x after value, log = before ++ x :: after → x.call.entered = some value →
    ∃ earlier look a, before = earlier ++ [⟨look, .locator page field .count⟩] ∧
      x.call = .locator page field (.fill value none) ∧ value = a.account ∧
      Entry sites page c look x.stage a

/-- From one stage to another by calls among which entries are guarded. -/
def Guards (sites : List Site) (page : Nat) (c : Click) (s t : Stage τ) : Prop :=
  ∃ log, Cued s log t ∧ Guarded sites page c log

variable {sites : List Site} {page : Nat} {c : Click} {E : Prop}

lemma Guarded.of_silent {log : List (Cue τ)} (silent : ∀ x ∈ log, x.call.Silent) :
    Guarded sites page c log := by
  rintro before x after value rfl entered
  cases entered.symm.trans (silent x (by simp))

lemma Guarded.append {log more : List (Cue τ)} (h : Guarded sites page c log)
    (k : Guarded sites page c more) : Guarded sites page c (log ++ more) := by
  intro before x after value cut entered
  rcases List.append_eq_append_iff.mp cut with ⟨middle, rfl, rest⟩ | ⟨middle, rfl, rest⟩
  · obtain ⟨earlier, look, a, rfl, known⟩ := k middle x after value rest entered
    exact ⟨log ++ earlier, look, a, (List.append_assoc ..).symm, known⟩
  · cases middle with
    | nil =>
      obtain ⟨earlier, look, a, front, known⟩ := k [] x after value rest.symm entered
      cases earlier <;> cases front
    | cons y middle =>
      obtain ⟨rfl, rfl⟩ := List.cons.inj rest
      exact h before x middle value rfl entered

instance : Std.Refl (Guards (τ := τ) sites page c) where
  refl s := ⟨[], .none s, .of_silent (List.forall_mem_nil _)⟩

instance : IsTrans (Stage τ) (Guards sites page c) where
  trans := by
    rintro s t u ⟨log, h, guarded⟩ ⟨more, k, others⟩
    exact ⟨log ++ more, h.trans k, guarded.append others⟩

lemma Guards.of_exchanged {s t : Stage τ} {log : List (Exchange τ)} (h : Exchanged s log t)
    (silent : ∀ x ∈ log, x.call.Silent) : Guards sites page c s t := by
  obtain ⟨cues, cued, same⟩ := h.cued
  refine ⟨cues, cued, .of_silent fun x hx => ?_⟩
  have called : x.call ∈ log.map (·.call) := same ▸ List.mem_map_of_mem hx
  obtain ⟨y, hy, call⟩ := List.mem_map.mp called
  rw [← call]
  exact silent y hy

/-- A play that enters nothing. -/
lemma guards_of_silent {p : Play τ α} (hp : Within (Stage.Using Call.Silent) E p) :
    Within (Guards sites page c) E p :=
  hp.mono (fun _ _ ⟨_, made, silent⟩ => .of_exchanged made silent) id

/-- The address that was looked at mentions the host of the site. -/
lemma Entry.mentioned {look s : Stage τ} {a : AccountChooser}
    (entry : Entry sites page c look s a) {url : String} (looked : look.url page = .text url) :
    a.host ≠ "" ∧ Text.contains url a.host := by
  have found := entry.site
  rw [looked, Site.find_text] at found
  have owned := List.find?_some (Except.ok.inj found)
  simpa [Site.owns] using owned

/-- The address that was looked at is that of an identifier form. -/
lemma Entry.shown {look s : Stage τ} {a : AccountChooser}
    (entry : Entry sites page c look s a) {url : String} (looked : look.url page = .text url) :
    loginMarkers.any (Text.contains url) := by
  have login := entry.login
  unfold isLoginPage at login
  rw [looked, Address.mentionsAny_text] at login
  split at login
  · exact Except.ok.inj login
  · cases login

/-- The fields are counted, there is one, and the account is entered in it. -/
lemma Entry.guards {a : AccountChooser} {look s : Stage τ} (entry : Entry sites page c look s a) :
    Guards sites page c look (Browser.fillLocated page field a.account none s).2 := by
  obtain ⟨n, counted, -⟩ := entry.counted
  have left : (Browser.count page field look).2 = s := congrArg Prod.snd counted
  refine ⟨[⟨look, .locator page field .count⟩, ⟨s, .locator page field (.fill a.account none)⟩],
    .call (.count page field) (left.symm ▸ .call (.fillLocated page field _ _) (.none _)), ?_⟩
  intro before x after value cut entered
  rcases before with _ | ⟨y, _ | ⟨z, before⟩⟩
  · cases cut
    cases entered
  · cases cut
    cases entered
    exact ⟨[], look, a, rfl, rfl, rfl, entry⟩
  · cases before <;> cases cut

end AccountChooser

namespace Target

open AccountChooser

variable {sites : List Site} {page : Nat} {c : Click} {E : Prop}

/-- What follows the entry of an account: the form is sent, if it has a button for that. -/
def sendForm (submitDelay : τ) (page : Nat) : Play τ Bool := do
  Play.pause submitDelay
  let button : Locator := { selector := nextButton, index := some 0 }
  if (← Browser.count page button) = 0 then return false
  Browser.clickLocated page button none
  return true

/-- An account is entered in the field for it, if there is one, and sent. -/
def fillForm (a : AccountChooser) (submitDelay : τ) (page : Nat) : Play τ Bool := do
  if (← Browser.count page field) = 0 then return false
  Browser.fillLocated page field a.account none
  sendForm submitDelay page

/-- The form is filled where it is shown and the click asks for an account; else nothing is done. -/
lemma signIn_cases (a : AccountChooser) (submitDelay : τ) (page : Nat) (c : Click) (s : Stage τ) :
    (a.account ≠ "" ∧ selectsAccount c.xpath = true ∧ isLoginPage (s.url page) = .ok true ∧
      signIn a submitDelay page c s = fillForm a submitDelay page s) ∨
    ∃ e, signIn a submitDelay page c s = (e, s) ∧ e ≠ .endless := by
  have filled : signIn a submitDelay page c =
      if a.account = "" || !selectsAccount c.xpath then Pure.pure false else (do
        if !(← Play.examine fun s => isLoginPage (s.url page)) then return false
        fillForm a submitDelay page) := rfl
  rw [filled]
  split
  · exact .inr ⟨_, rfl, nofun⟩
  next known =>
  have ready : a.account ≠ "" ∧ selectsAccount c.xpath = true := by simpa using known
  rcases login : isLoginPage (s.url page) with f | _ | _
  · exact .inr ⟨.failed f, bind_failed (examine_error login), nofun⟩
  · exact .inr ⟨.done false, (bind_done (examine_ok login)).trans rfl, nofun⟩
  · exact .inl ⟨ready.1, ready.2, rfl, (bind_done (examine_ok login)).trans rfl⟩

lemma sendForm_guards (submitDelay : τ) :
    Within (Guards sites page c) E (sendForm submitDelay page) := by
  refine guards_of_silent (.bind (.pauses _ rfl) fun _ =>
    .bind (.asks (.count page _) rfl) fun buttons => ?_)
  split
  · exact .pure false
  · exact .bind (.asks (.clickLocated page _ _) rfl) fun _ => .pure true

/-- The entry comes right after the count, so nothing but the count is to be known for it. -/
lemma fillForm_guards {a : AccountChooser} {s : Stage τ} (submitDelay : τ)
    (known : ∀ n t, Browser.count page field s = (.done n, t) → n ≠ 0 →
      AccountChooser.Entry sites page c s t a) :
    WithinAt (Guards sites page c) E (fillForm a submitDelay page) s := by
  have counting : Within (Guards sites page c) False (Browser.count page field : Play τ Nat) :=
    guards_of_silent (.asks (.count page field) rfl)
  have looked := (counting s).1
  unfold WithinAt fillForm
  rcases counted : Browser.count page field s with ⟨n | f | _, t⟩ <;> rw [counted] at looked
  · rw [bind_done counted]
    split
    · exact ⟨looked, nofun⟩
    next some =>
    have entered := (known n t counted some).guards
    rcases done : Browser.fillLocated page field a.account none t with ⟨⟨⟩ | f | _, u⟩ <;>
      rw [done] at entered
    · obtain ⟨sent, ends⟩ := sendForm_guards (c := c) submitDelay u
      rw [bind_done done]
      exact ⟨IsTrans.trans _ _ _ entered sent, ends⟩
    · rw [bind_failed done]
      exact ⟨entered, nofun⟩
    · exact absurd (congrArg Prod.fst done) ((Asks.fillLocated page field _ _).made t).2
  · rw [bind_failed counted]
    exact ⟨looked, nofun⟩
  · exact absurd (congrArg Prod.fst counted) (counting.ends s)

lemma signIn_guards {a : AccountChooser} {s : Stage τ} (submitDelay : τ)
    (site : Site.find sites (s.url page) = .ok (some (.accountChooser a))) :
    WithinAt (Guards sites page c) E (signIn a submitDelay page c) s := by
  unfold WithinAt
  obtain ⟨account, asked, login, filled⟩ | ⟨e, idle, ends⟩ := signIn_cases a submitDelay page c s
  · rw [filled]
    exact fillForm_guards submitDelay fun n t counted some =>
      ⟨site, login, account, asked, n, counted, some⟩
  · rw [idle]
    exact ⟨refl s, fun endless => absurd endless ends⟩

lemma ownClick_guards {s : Stage Float} {way : Play Float Bool}
    (h : ownClick sites page c s = .ok way) : WithinAt (Guards sites page c) E way s := by
  obtain rfl | ⟨a, site, rfl⟩ := ownClick_cases h
  · exact Within.pure false s
  · exact signIn_guards _ site

lemma refresh_guards (plan : ClickPlan τ) : Within (Guards sites page c) E (refresh plan page) := by
  intro s
  obtain ⟨worked, t, refreshed, made⟩ := refresh_made plan page s
  rw [refreshed]
  refine ⟨.of_exchanged made fun x hx => ?_, nofun⟩
  simp only [between, List.mem_cons, List.not_mem_nil, or_false] at hx
  rcases hx with rfl | rfl | rfl <;> rfl

/-- Whatever a click enters is guarded. -/
lemma click_guards (plan : ClickPlan Float) :
    Within (Guards sites page c) E (click plan sites page c) :=
  clickWith_within (fun _ _ => ownClick_guards)
    (guards_of_silent ((directClick_reaches plan page c).using_mono fun _ reaches => reaches.2))
    (refresh_guards plan)
    (fun f => guards_of_silent
      ((tryFallback_reaches _ page f).using_mono fun _ reaches => reaches.2)) sites

/-- During a click an account is entered only in the identifier field, right after the fields have
been counted. When the counting began, the address of the page mentioned the host of the account's
site, in its authority or around it, and showed an identifier form. If the page does not move during
the counting, the account is entered on a page of its own site exactly if the authority mentions the
host, so at least where nothing around the authority does. -/
theorem account_entered_where_mentioned (plan : ClickPlan Float) (sites : List Site) (page : Nat)
    (c : Click) (s : Stage Float) : ∃ log, Cued s log (click plan sites page c s).2 ∧
      (click plan sites page c s).2.calls = s.calls ++ log.map (·.call) ∧
      ∀ before x after value, log = before ++ x :: after → x.call.entered = some value →
        ∃ earlier look a, before = earlier ++ [⟨look, .locator page field .count⟩] ∧
          x.call = .locator page field (.fill value none) ∧ value = a.account ∧
          AccountChooser.Entry sites page c look x.stage a ∧
          ∀ url, look.url page = .text url →
            (a.host ≠ "" ∧ Text.contains url a.host ∧ loginMarkers.any (Text.contains url)) ∧
            (Address.IsPlace a.host → Address.Hosted url a.host ∨ Address.Aside url a.host) ∧
            (x.stage.url page = .text url →
              (x.stage.At page a.host ↔ Address.Hosted url a.host)) := by
  obtain ⟨⟨log, cued, guarded⟩, -⟩ := click_guards (E := False) plan s
  refine ⟨log, cued, cued.calls, fun before x after value cut entered => ?_⟩
  obtain ⟨earlier, look, a, rfl, call, account, entry⟩ := guarded before x after value cut entered
  refine ⟨earlier, look, a, rfl, call, account, entry, fun url looked => ?_⟩
  obtain ⟨filled, mentioned⟩ := entry.mentioned looked
  exact ⟨⟨filled, mentioned, entry.shown looked⟩,
    fun place => (Address.contains_iff place).mp mentioned, Stage.at_iff⟩

section Forms

/-- A page with an identifier form. -/
def form (url : String) : Stage Float where
  now := 0
  pages := [{
    url := .text url
    elements := [{ selectors := [identifierField] }, { selectors := [nextButton] }] }]

def chooser : AccountChooser where
  host := "accounts.google.com"
  account := "ana@example.test"

/-- A click on an entry of the chooser. -/
def choosing : Click where
  xpath := "//div[@data-email='ana@example.test']"

/-- What such a click makes of such a page. -/
def chosen (url : String) : Stage Float :=
  (click (.ofSettings Settings.standard) [.accountChooser chooser] 0 choosing (form url)).2

/-- On such a page the fields are counted first, and then the account is entered. -/
lemma form_entered {url : String} {log : List (Cue Float)} (cued : Cued (form url) log (chosen url))
    (calls : (chosen url).calls.map Call.entered =
      [none, some chooser.account, none, none, none]) :
    ∃ look x after, log = [look] ++ x :: after ∧ look.stage = form url ∧
      x.call.entered = some chooser.account := by
  rw [cued.calls] at calls
  obtain _ | ⟨look, _ | ⟨x, after⟩⟩ := log
  · cases calls
  · cases congrArg List.length calls
  · exact ⟨look, x, after, rfl, cued.head, Option.some.inj (congrArg (·[1]?) calls)⟩

/-- Counting the fields of such a page does not move it. -/
lemma form_entry {url : String} {look x first : Cue Float} {a : AccountChooser}
    {earlier : List (Cue Float)} (before : [first] = earlier ++ [look])
    (began : first.stage = form url)
    (entry : AccountChooser.Entry [.accountChooser chooser] 0 choosing look.stage x.stage a) :
    a = chooser ∧ look.stage.url 0 = .text url ∧ x.stage.url 0 = .text url := by
  obtain ⟨rfl, rfl⟩ : earlier = [] ∧ first = look := by
    cases earlier with
    | nil => exact ⟨rfl, (List.cons.inj before).1⟩
    | cons y earlier => simp at before
  obtain ⟨n, counted, -⟩ := entry.counted
  have found := entry.site
  rw [began] at found counted ⊢
  refine ⟨?_, rfl, ?_⟩
  · obtain ⟨front, back, split, -⟩ := Failure.findFirst_some found
    have known : Site.accountChooser a ∈ [Site.accountChooser chooser] := by simp [split]
    exact Site.accountChooser.inj (List.mem_singleton.mp known)
  · have stays : (Browser.count 0 field (form url)).2.url 0 = .text url := rfl
    rwa [counted] at stays

/-- A sign-in page of the site itself. -/
theorem account_entered_where_mentioned_form :
    let url := "https://accounts.google.com/signin/identifier?hl=en"
    Address.IsPlace chooser.host ∧ ¬ Address.Aside url chooser.host ∧
      ∃ log before x after, Cued (form url) log (chosen url) ∧ log = before ++ x :: after ∧
        x.call.entered = some chooser.account ∧ x.stage.At 0 chooser.host := by
  intro url
  have place : Address.IsPlace chooser.host := by decide
  have aside : ¬ Address.Aside url chooser.host := by decide
  obtain ⟨log, cued, -, entries⟩ := account_entered_where_mentioned (.ofSettings Settings.standard)
    [.accountChooser chooser] 0 choosing (form url)
  obtain ⟨first, x, after, cut, began, entered⟩ := form_entered cued (by decide +kernel)
  obtain ⟨earlier, look, a, before, -, -, entry, told⟩ := entries _ x after _ cut entered
  obtain ⟨rfl, looked, stays⟩ := form_entry before began entry
  obtain ⟨-, somewhere, own⟩ := told url looked
  have hosted := (somewhere place).resolve_right aside
  exact ⟨place, aside, log, [first], x, after, cued, cut, entered, (own stays).mpr hosted⟩

/-- A page of another site, which mentions the host only in what it is asked. -/
theorem account_entered_elsewhere :
    let url := "https://evil.example/signin/identifier?continue=https://accounts.google.com/"
    Address.IsPlace chooser.host ∧ ∃ log before x after,
      Cued (form url) log (chosen url) ∧ log = before ++ x :: after ∧
        x.call.entered = some chooser.account ∧ x.stage.url 0 = .text url ∧
        Address.authority? url = some "evil.example" ∧ ¬ x.stage.At 0 chooser.host := by
  intro url
  obtain ⟨log, cued, guarded⟩ : Guards [.accountChooser chooser] 0 choosing (form url) (chosen url) :=
    (click_guards (E := False) (.ofSettings Settings.standard) (form url)).1
  obtain ⟨first, x, after, cut, began, entered⟩ := form_entered cued (by decide +kernel)
  obtain ⟨earlier, look, a, before, -, -, entry⟩ := guarded _ x after _ cut entered
  obtain ⟨-, -, stays⟩ := form_entry before began entry
  refine ⟨by decide, log, [first], x, after, cued, cut, entered, stays, by decide, ?_⟩
  rw [Stage.at_iff stays]
  decide

end Forms

end Target

end Rehearsal
