import Rehearsal.Proofs.PopupPriority
import Rehearsal.Session.Launch

/-!
# Whether the page that a search returns is open

A page is open when it is picked, and so is a current page on which the search stays. But a
page that the search moves to is given time to load and to settle, and after that nobody
looks at it again: if it closes itself meanwhile, it is returned all the same, even where
another page is open.
-/

namespace Rehearsal.Popup

open Play

variable {τ : Type} [Clock τ] {plan : Plan τ} {w : Wanted} {s t u : Stage τ} {page : Nat}

/-- A page is open on the stage on which it is picked. -/
lemma Picked.shown (h : Picked plan w s page u) : u.isClosed page = false := by
  cases h with
  | existing newest => exact openPages_open newest.mem
  | signalled searching h => exact h.shown
  | other past outside newest => exact openPages_open newest.mem

/-- The page is open, or else no page is. -/
def Usable (page : Nat) (t : Stage τ) : Prop := t.openPages ≠ [] → t.isClosed page = false

/-- The search has picked an open page and moved to it, and on the way the page has closed,
while another is open. -/
structure Deserted (plan : Plan τ) (w : Wanted) (s : Stage τ) (page : Nat) (t : Stage τ) :
    Prop where
  move : ∃ u, Picked plan w s page u ∧ u.isClosed page = false ∧
    accept plan page u = (.done page, t)
  closed : t.isClosed page = true
  others : t.openPages ≠ []

/-- The page that a search returns is open, if any is, unless the search has moved to it and
it has closed on the way. -/
theorem returned_usable_iff (h : switch plan w s = (.done page, t)) :
    Usable page t ↔ ¬ Deserted plan w s page t := by
  constructor
  · intro usable deserted
    have shown := usable deserted.others
    rw [deserted.closed] at shown
    cases shown
  · intro stayed others
    obtain ⟨e, v, hs, decided⟩ := switch_ends plan w s
    cases h.symm.trans hs
    cases decided with
    | moved picked settled =>
      refine Bool.eq_false_iff.mpr fun closed => stayed ⟨?_, closed, others⟩
      exact ⟨_, picked, picked.shown, settled⟩
    | inside past inside => exact inside.2.1
    | kept alone optional shown => exact shown

/-- A popup that does not close itself is returned open. -/
theorem returned_usable_iff_popup : ∃ t : Stage Float,
    switch (.ofSettings Settings.standard none)
      { current := 0, baseline := ⟨0, 1⟩, domains := ["pay.example"], required := false }
      { now := 0, pages := [{}, { url := .text "https://pay.example" }] } = (.done 1, t) ∧
    (Usable 1 t ↔ ¬ Deserted (.ofSettings Settings.standard none)
      { current := 0, baseline := ⟨0, 1⟩, domains := ["pay.example"], required := false }
      { now := 0, pages := [{}, { url := .text "https://pay.example" }] } 1 t) := by
  let plan : Plan Float := .ofSettings Settings.standard none
  let w : Wanted :=
    { current := 0, baseline := ⟨0, 1⟩, domains := ["pay.example"], required := false }
  let s : Stage Float := { now := 0, pages := [{}, { url := .text "https://pay.example" }] }
  have outcome : (switch plan w s).1.value? = some 1 := by decide +kernel
  rcases h : switch plan w s with ⟨page | f | _, t⟩ <;> rw [h] at outcome
  · obtain rfl := Option.some.inj outcome
    exact ⟨t, rfl, returned_usable_iff h⟩
  · cases outcome
  · cases outcome

/-- A popup that closes itself while it is given time to load is returned although it is
closed and the first page is open. -/
theorem popup_closes_itself : ∃ session s t,
    Session.launch Settings.standard { now := 0, prepared := [{}, {
      url := .text "https://pay.example"
      script := [("wait_for_load_state", [[.close none]])] }] } = (.done session, s) ∧
    switch (.ofSettings Settings.standard none)
      { current := session.firstPage, baseline := ⟨s.watch.marker, s.pageCount⟩
        domains := ["pay.example"], required := false } s = (.done 1, t) ∧
    t.isClosed 1 = true ∧ t.openPages = [0] := by
  let world : Stage Float := { now := 0, prepared := [{}, {
    url := .text "https://pay.example"
    script := [("wait_for_load_state", [[.close none]])] }] }
  let search : Play Float Nat := do
    let session ← Session.launch Settings.standard
    let baseline ← Session.Baseline.capture
    switch (.ofSettings Settings.standard none)
      { current := session.firstPage, baseline, domains := ["pay.example"], required := false }
  have outcome : (search world).1.value? = some 1 ∧ (search world).2.isClosed 1 = true ∧
      (search world).2.openPages = [0] := by decide +kernel
  rcases h : search world with ⟨page | f | _, t⟩ <;> rw [h] at outcome
  · obtain ⟨returned, closed, others⟩ := outcome
    obtain rfl := Option.some.inj returned
    obtain ⟨session, s, hl, h⟩ := done_of_bind h
    exact ⟨session, s, t, hl, h, closed, others⟩
  · cases outcome.1
  · cases outcome.1

end Rehearsal.Popup
