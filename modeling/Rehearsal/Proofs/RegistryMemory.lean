import Mathlib.Data.List.Induction
import Rehearsal.Action.Registry

/-!
# What a registry remembers does not show

A registry remembers the models that it has looked up. Its answers are those of a registry that
keeps nothing but what has been registered so far, and looks for the model registered last under a
name each time. The invariant is one of both parts of a registry: the specs are the last ones
under each name, in the order in which the names came first, and every remembered model is that of
the spec under its name.
-/

namespace Rehearsal

namespace Registry

/-- What somebody does with a registry. -/
inductive Use where
  | register (c : Candidate) (name description : Option String)
  | parse (i : Item)
  | parseItems (items : List Item)
  | parseAll (v : Value)

/-- What comes back from a use. -/
inductive Outcome where
  | registered
  | refused (f : RegisterFault)
  | parsed (a : Except ParseFault Action)
  | parsedAll (as : Except ParseFault (List Action))

/-- A use, with the registry after it. -/
def take (r : Registry) : Use → Outcome × Registry
  | .register c name description => match r.register c name description with
    | .ok r => (.registered, r)
    | .error f => (.refused f, r)
  | .parse i => (.parsed (r.parse i).1, (r.parse i).2)
  | .parseItems items => (.parsedAll (r.parseItems items).1, (r.parseItems items).2)
  | .parseAll v => (.parsedAll (r.parseAll v).1, (r.parseAll v).2)

/-- The registry that begins empty, after some uses. -/
def after (uses : List Use) : Registry := uses.foldl (fun r u => (r.take u).2) {}

/-! ## The registry without a memory -/

/-- The name under which a model is registered when one is given. -/
def nameFor (m : Registrable) (given : Option String) : String :=
  if given.getD "" = "" then m.ownTag else given.getD ""

/-- What a use registers. -/
def Use.spec? : Use → Option Spec
  | .register c name description => match c.check with
    | .ok m => some ⟨nameFor m name, m, description.getD ""⟩
    | .error _ => none
  | _ => none

/-- All that some uses have registered, in order. -/
def registrations (uses : List Use) : List Spec := uses.filterMap Use.spec?

/-- What was registered last under a name. -/
def lastUnder (history : List Spec) (name : String) : Option Spec :=
  history.reverse.find? (·.name = name)

/-- What an item reads as by the model registered last under its tag. -/
def readItem (history : List Spec) : Item → Except ParseFault Action
  | .ready a => .ok a
  | .raw (.object fields) => readFields ((lastUnder history (tagOf fields)).map (·.model)) fields
  | .raw v => .error (.notAnObject v.kindName)

def readItems (history : List Spec) (items : List Item) : Except ParseFault (List Action) :=
  items.foldr (fun i others => collect (readItem history i) others) (.ok [])

/-- The answer that follows from what has been registered before. -/
def plainAnswer (history : List Spec) : Use → Outcome
  | .register c _ _ => match c.check with
    | .ok _ => .registered
    | .error f => .refused f
  | .parse i => .parsed (readItem history i)
  | .parseItems items => .parsedAll (readItems history items)
  | .parseAll (.list items) => .parsedAll (readItems history (items.map .raw))
  | .parseAll _ => .parsedAll (.error .notAList)

/-! ## The invariant -/

section Places

variable (specs : List Spec) (s : Spec) (name : String)

lemma find_place : (place specs s).find? (·.name = name) =
    if s.name = name then some s else specs.find? (·.name = name) := by
  induction specs with
  | nil => by_cases here : s.name = name <;> simp [place, here]
  | cons t rest ih =>
    unfold place
    split
    · next same => by_cases here : s.name = name <;> simp [same, here]
    · next other =>
      rw [List.find?_cons, List.find?_cons, ih]
      by_cases here : t.name = name
      · have apart : s.name ≠ name := fun h => other (here.trans h.symm)
        simp [here, apart]
      · simp [here]

lemma names_place : (place specs s).map (·.name) =
    if s.name ∈ specs.map (·.name) then specs.map (·.name)
    else specs.map (·.name) ++ [s.name] := by
  induction specs with
  | nil => rfl
  | cons t rest ih =>
    unfold place
    by_cases same : t.name = s.name
    · simp [same]
    · rw [if_neg same, List.map_cons, ih]
      by_cases later : s.name ∈ rest.map (·.name) <;> simp [later, Ne.symm same]

end Places

lemma eraseDups_concat {α : Type} [DecidableEq α] (l : List α) (a : α) :
    (l ++ [a]).eraseDups = if a ∈ l then l.eraseDups else l.eraseDups ++ [a] := by
  rw [List.eraseDups_append]
  split <;> simp_all [List.removeAll, List.eraseDups_cons]

/-- The registry is what a history of registrations comes to. -/
structure Reflects (r : Registry) (history : List Spec) : Prop where
  names : r.names = (history.map (·.name)).eraseDups
  find (name : String) : r.find name = lastUnder history name
  prepared : ∀ p ∈ r.prepared, (r.find p.1).map (·.model) = some p.2

variable {r : Registry} {history : List Spec}

lemma Reflects.empty : Reflects {} [] := ⟨rfl, fun _ => rfl, by simp⟩

/-- The model for a tag is the one registered last under it, remembered or not. -/
lemma Reflects.modelFor (h : Reflects r history) (tag : String) :
    r.modelFor tag = (lastUnder history tag).map (·.model) := by
  unfold Registry.modelFor
  rw [← h.find tag]
  cases found : r.find tag with
  | none => rfl
  | some s =>
    cases seen : r.prepared.lookup tag with
    | none => rfl
    | some m =>
      obtain ⟨front, rest, split, -⟩ := List.lookup_eq_some_iff.mp seen
      have kept := h.prepared (tag, m) (by simp [split])
      rw [found] at kept
      exact kept.symm

lemma Reflects.remember (h : Reflects r history) (tag : String) :
    Reflects (r.remember tag) history := by
  unfold Registry.remember
  cases model : r.modelFor tag with
  | none => exact h
  | some m =>
    dsimp only
    split
    · exact h
    · refine ⟨h.names, h.find, fun p hp => ?_⟩
      rcases List.mem_cons.mp hp with rfl | hp
      · have found : (r.find tag).map (·.model) = some m := by
          rw [h.find, ← h.modelFor, model]
        exact found
      · exact h.prepared p hp

/-- A name that is registered again keeps its place, and what was remembered for it is gone. -/
lemma Reflects.enter (h : Reflects r history) (s : Spec) :
    Reflects ⟨place r.specs s, r.prepared.filter fun p => p.1 ≠ s.name⟩ (history ++ [s]) := by
  have find (name : String) : (place r.specs s).find? (·.name = name) =
      if s.name = name then some s else r.find name := find_place r.specs s name
  refine ⟨?_, fun name => ?_, fun p hp => ?_⟩
  · have names : r.specs.map (·.name) = (history.map (·.name)).eraseDups := h.names
    show (place r.specs s).map (·.name) = _
    rw [names_place, names, List.map_append, List.map_singleton, eraseDups_concat]
    simp only [List.mem_eraseDups]
  · show (place r.specs s).find? _ = _
    rw [find, lastUnder, List.reverse_append, List.reverse_singleton, List.singleton_append,
      List.find?_cons, h.find]
    by_cases here : s.name = name <;> simp [here, lastUnder]
  · obtain ⟨kept, other⟩ := List.mem_filter.mp hp
    have apart : s.name ≠ p.1 := fun same => by simp [same] at other
    show ((place r.specs s).find? _).map _ = _
    rw [find, if_neg apart]
    exact h.prepared p kept

lemma Reflects.parse (h : Reflects r history) (i : Item) :
    (r.parse i).1 = readItem history i ∧ Reflects (r.parse i).2 history := by
  cases i with
  | ready a => exact ⟨rfl, h⟩
  | raw v =>
    cases v with
    | object fields =>
      refine ⟨?_, h.remember _⟩
      show readFields (r.modelFor (tagOf fields)) fields = _
      rw [h.modelFor]
      rfl
    | _ => exact ⟨rfl, h⟩

lemma Reflects.parseItems (h : Reflects r history) (items : List Item) :
    (r.parseItems items).1 = readItems history items ∧ Reflects (r.parseItems items).2 history := by
  induction items generalizing r with
  | nil => exact ⟨rfl, h⟩
  | cons i rest ih =>
    obtain ⟨read, reflects⟩ := h.parse i
    obtain ⟨others, later⟩ := ih reflects
    refine ⟨by rw [parseItems_cons, read, others]; rfl, ?_⟩
    rw [Registry.parseItems]
    split <;> rename_i first <;> rw [first] at reflects later
    · exact later
    · exact later
    · exact reflects

lemma register_eq (r : Registry) (c : Candidate) (name description : Option String) :
    r.register c name description = c.check.map fun m =>
      ⟨place r.specs ⟨nameFor m name, m, description.getD ""⟩,
        r.prepared.filter fun p => p.1 ≠ nameFor m name⟩ := by
  unfold register
  cases c.check <;> rfl

lemma Reflects.register (h : Reflects r history) (c : Candidate)
    (name description : Option String) :
    (r.take (.register c name description)).1 =
        plainAnswer history (.register c name description) ∧
      Reflects (r.take (.register c name description)).2
        (history ++ (Use.register c name description).spec?.toList) := by
  simp only [take, plainAnswer, Use.spec?, register_eq]
  cases c.check with
  | error f =>
    rw [Option.toList_none, List.append_nil]
    exact ⟨rfl, h⟩
  | ok m => exact ⟨rfl, h.enter _⟩

/-- A use is answered from the history, and leaves what the longer history comes to. -/
lemma Reflects.take (h : Reflects r history) (u : Use) :
    (r.take u).1 = plainAnswer history u ∧ Reflects (r.take u).2 (history ++ u.spec?.toList) := by
  cases u with
  | register c name description => exact h.register c name description
  | parse i =>
    obtain ⟨read, reflects⟩ := h.parse i
    exact ⟨congrArg Outcome.parsed read, by rwa [← List.append_nil history] at reflects⟩
  | parseItems items =>
    obtain ⟨read, reflects⟩ := h.parseItems items
    exact ⟨congrArg Outcome.parsedAll read, by rwa [← List.append_nil history] at reflects⟩
  | parseAll v =>
    cases v with
    | list items =>
      obtain ⟨read, reflects⟩ := h.parseItems (items.map .raw)
      exact ⟨congrArg Outcome.parsedAll read, by rwa [← List.append_nil history] at reflects⟩
    | _ => exact ⟨rfl, by rwa [← List.append_nil history] at h⟩

lemma reflects_after (uses : List Use) : Reflects (after uses) (registrations uses) := by
  induction uses using List.reverseRecOn with
  | nil => exact .empty
  | append_singleton before u ih =>
    have step := (ih.take u).2
    have course : after (before ++ [u]) = ((after before).take u).2 := by simp [after]
    have longer : registrations (before ++ [u]) = registrations before ++ u.spec?.toList := by
      cases spec : u.spec? <;> simp [registrations, spec]
    rwa [course, longer]

/-- After any uses the next is answered as by a registry that keeps only what has been
registered, and has no memory of what it has looked up. The names are in the order in which each
was first registered. A registration that is refused leaves no trace in anything that follows. -/
theorem memory_unseen (before : List Use) (u : Use) :
    ((after before).take u).1 = plainAnswer (registrations before) u ∧
    (after before).names = ((registrations before).map (·.name)).eraseDups ∧
    ∀ c name description f, (after before).register c name description = .error f →
      ∀ later, after (before ++ .register c name description :: later) =
        after (before ++ later) := by
  have reflects := reflects_after before
  refine ⟨(reflects.take u).1, reflects.names, fun c name description f refused later => ?_⟩
  have unchanged : ((after before).take (.register c name description)).2 = after before := by
    simp only [take, refused]
  unfold after at unchanged ⊢
  rw [List.foldl_append, List.foldl_append, List.foldl_cons, unchanged]

/-- A tag that has been looked up and is then registered for another model. -/
theorem memory_unseen_replaced :
    let wait : Use := .parse (.raw (.object [("type", .text "wait")]))
    let before : List Use := [.register (.model .wait) none none, .register .plain none none, wait,
      .register (.model .unknown) (some "wait") none]
    (after before).register .foreignType none none = .error .notAnAction ∧
    ((after before).take wait).1 = .parsed (.ok (.unknown { type := "wait" })) ∧
    (after before).names = ["wait", "ActionBase"] ∧
    after (before ++ .register .foreignType none none :: [wait]) = after (before ++ [wait]) := by
  intro wait before
  obtain ⟨answered, names, refused⟩ := memory_unseen before wait
  have foreign : (after before).register .foreignType none none = .error .notAnAction := rfl
  refine ⟨foreign, answered.trans rfl, names.trans (by decide), ?_⟩
  exact refused .foreignType none none .notAnAction foreign [wait]

end Registry

end Rehearsal
