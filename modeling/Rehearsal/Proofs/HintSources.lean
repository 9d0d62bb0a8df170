import Mathlib.Data.List.Nodup
import Mathlib.Tactic.Lemma
import Rehearsal.Site

/-!
# Where the hints of a click come from

A click has hints of its own, hints that its expression gives, and hints of the site that it is made
on. Merging prefers the hints on the left and keeps the order of the attributes on the right, to
which the others are added. It does not matter which of three hints are merged first. So what comes
out is said source by source, the earlier source counting.
-/

namespace Rehearsal

namespace Attributes

variable {as new : Attributes} {k n v w : String}

/-- The names, in order. -/
def names (as : Attributes) : List String := as.map Prod.fst

/-- No name stands twice. -/
def Distinct (as : Attributes) : Prop := as.names.Nodup

instance (as : Attributes) : Decidable as.Distinct := inferInstanceAs (Decidable as.names.Nodup)

lemma names_append (as new : Attributes) : (as ++ new).names = as.names ++ new.names :=
  List.map_append

/-! ## One assignment -/

lemma lookup_cons : List.lookup n ((k, v) :: as) = if n = k then some v else as.lookup n := by
  rw [List.lookup_cons]
  by_cases same : n = k
  · rw [if_pos same, beq_iff_eq.mpr same]
  · rw [if_neg same, beq_eq_false_iff_ne.mpr same]

lemma lookup_assign : (as.assign k v).lookup n = if n = k then some v else as.lookup n := by
  induction as with
  | nil => exact lookup_cons
  | cons a rest ih =>
    obtain ⟨name, old⟩ := a
    unfold assign
    split
    · next here =>
      rw [lookup_cons, lookup_cons, here]
      split <;> rfl
    · next other =>
      rw [lookup_cons, lookup_cons, ih]
      by_cases here : n = name
      · subst here
        simp [other]
      · simp [here]

lemma assign_fresh (fresh : k ∉ as.names) : as.assign k v = as ++ [(k, v)] := by
  induction as with
  | nil => rfl
  | cons a rest ih =>
    obtain ⟨other, later⟩ := not_or.mp (mt List.mem_cons.mpr fresh)
    rw [assign, if_neg (Ne.symm other), ih later, List.cons_append]

/-- A name that is there keeps its place. -/
lemma names_assign_there (there : k ∈ as.names) : (as.assign k v).names = as.names := by
  induction as with
  | nil => cases there
  | cons a rest ih =>
    unfold assign
    split
    · rfl
    · next other =>
      have later : k ∈ names rest := (List.mem_cons.mp there).resolve_left (Ne.symm other)
      exact congrArg (a.1 :: ·) (ih later)

lemma names_assign_fresh (fresh : k ∉ as.names) : (as.assign k v).names = as.names ++ [k] := by
  rw [assign_fresh fresh, names_append]
  rfl

lemma mem_names_assign : n ∈ (as.assign k v).names ↔ n ∈ as.names ∨ n = k := by
  by_cases there : k ∈ as.names
  · rw [names_assign_there there]
    constructor
    · exact .inl
    · rintro (hn | rfl)
      · exact hn
      · exact there
  · rw [names_assign_fresh there, List.mem_append, List.mem_singleton]

lemma Distinct.assign (h : as.Distinct) : (as.assign k v).Distinct := by
  unfold Distinct
  by_cases there : k ∈ as.names
  · rwa [names_assign_there there]
  · rw [names_assign_fresh there, List.nodup_append]
    refine ⟨h, List.nodup_singleton k, ?_⟩
    rintro n hn m hm rfl
    exact there (List.mem_singleton.mp hm ▸ hn)

/-- Of two assignments to one name the second counts. -/
lemma assign_assign : (as.assign k v).assign k w = as.assign k w := by
  induction as with
  | nil => simp [assign]
  | cons a rest ih =>
    by_cases here : a.1 = k <;> simp [assign, here, ih]

/-- A name that is there already keeps its place, whatever is assigned to another. -/
lemma assign_comm (there : k ∈ as.names) (apart : k ≠ n) :
    (as.assign k v).assign n w = (as.assign n w).assign k v := by
  induction as with
  | nil => cases there
  | cons a rest ih =>
    obtain ⟨name, old⟩ := a
    by_cases here : name = k
    · subst here
      simp [assign, apart]
    · have later : k ∈ names rest := (List.mem_cons.mp there).resolve_left (Ne.symm here)
      by_cases other : name = n
      · subst other
        simp [assign, here]
      · simp [assign, here, other, ih later]

/-! ## Updates -/

@[simp] lemma update_cons : as.update ((k, v) :: new) = (as.assign k v).update new := rfl

lemma Distinct.update (h : as.Distinct) : (as.update new).Distinct := by
  induction new generalizing as with
  | nil => exact h
  | cons a rest ih => exact ih h.assign

/-- An update with other names leaves an assignment alone. -/
lemma assign_update (there : k ∈ as.names) (apart : k ∉ new.names) :
    (as.update new).assign k v = (as.assign k v).update new := by
  induction new generalizing as with
  | nil => rfl
  | cons a rest ih =>
    obtain ⟨name, value⟩ := a
    obtain ⟨other, later⟩ := not_or.mp (mt List.mem_cons.mpr apart)
    rw [update_cons, update_cons, ih (mem_names_assign.mpr (.inl there)) later,
      assign_comm there other]

/-- What is assigned last to the new attributes is assigned last in all. -/
lemma update_assign (h : new.Distinct) :
    as.update (new.assign k v) = (as.update new).assign k v := by
  induction new generalizing as with
  | nil => rfl
  | cons a rest ih =>
    obtain ⟨name, value⟩ := a
    obtain ⟨first, others⟩ := List.nodup_cons.mp h
    by_cases here : name = k
    · subst here
      rw [update_cons, assign_update (mem_names_assign.mpr (.inr rfl)) first, assign_assign, assign,
        if_pos rfl, update_cons]
    · rw [assign, if_neg here, update_cons, update_cons, ih others]

lemma update_update (last : Attributes) (h : new.Distinct) :
    as.update (new.update last) = (as.update new).update last := by
  induction last generalizing new with
  | nil => rfl
  | cons a rest ih =>
    obtain ⟨name, value⟩ := a
    rw [update_cons, ih h.assign, update_assign h, update_cons]

lemma lookup_absent (h : n ∉ as.names) : as.lookup n = none := by
  refine List.lookup_eq_none_iff.mpr fun a ha => ?_
  simpa using fun same : n = a.1 => h (same ▸ List.mem_map_of_mem ha)

lemma lookup_update (h : new.Distinct) :
    (as.update new).lookup n = (new.lookup n).or (as.lookup n) := by
  induction new generalizing as with
  | nil => rfl
  | cons a rest ih =>
    obtain ⟨name, value⟩ := a
    obtain ⟨first, others⟩ := List.nodup_cons.mp h
    rw [update_cons, ih others, lookup_assign, lookup_cons]
    by_cases here : n = name
    · subst here
      rw [if_pos rfl, if_pos rfl, lookup_absent first]
      rfl
    · rw [if_neg here, if_neg here]

/-- A value that an update leaves is a new one or stood there before. -/
lemma mem_of_lookup_update (h : (as.update new).lookup n = some v) :
    (n, v) ∈ new ∨ as.lookup n = some v := by
  induction new generalizing as with
  | nil => exact .inr h
  | cons a rest ih =>
    obtain ⟨name, value⟩ := a
    rcases ih h with later | before
    · exact .inl (List.mem_cons_of_mem _ later)
    · rw [lookup_assign] at before
      split at before
      · next same =>
        cases before
        exact .inl (same ▸ List.mem_cons_self)
      · exact .inr before

/-- New names are added in their order. -/
lemma names_update (h : new.Distinct) :
    (as.update new).names = as.names ++ new.names.filter (· ∉ as.names) := by
  induction new generalizing as with
  | nil => exact (List.append_nil _).symm
  | cons a rest ih =>
    obtain ⟨name, value⟩ := a
    obtain ⟨first, others⟩ := List.nodup_cons.mp h
    have split : names ((name, value) :: rest) = name :: names rest := rfl
    rw [update_cons, ih others, split]
    by_cases there : name ∈ as.names
    · rw [names_assign_there there, List.filter_cons_of_neg (by simpa using there)]
    · have apart : (names rest).filter (· ∉ (as.assign name value).names) =
          (names rest).filter (· ∉ as.names) := by
        refine List.filter_congr fun n hn => ?_
        have other : n ≠ name := fun same => first (same ▸ hn)
        simp [mem_names_assign, other]
      rw [apart, names_assign_fresh there, List.filter_cons_of_pos (by simpa using there),
        List.append_assoc, List.singleton_append]

lemma update_fresh (h : (as ++ new).Distinct) : as.update new = as ++ new := by
  induction new generalizing as with
  | nil => exact (List.append_nil as).symm
  | cons a rest ih =>
    obtain ⟨name, value⟩ := a
    have fresh : name ∉ as.names := by
      intro there
      unfold Distinct at h
      rw [names_append, List.nodup_append] at h
      exact h.2.2 name there name List.mem_cons_self rfl
    have later : ((as ++ [(name, value)]) ++ rest).Distinct := by
      rwa [List.append_assoc]
    rw [update_cons, assign_fresh fresh, ih later, List.append_assoc, List.singleton_append]

end Attributes

namespace Hints

/-- A text that says something. -/
def filled (t : Option String) : Option String := t.filter (· ≠ "")

lemma filled_preferText (a b : Option String) :
    filled (preferText a b) = (filled a).or (filled b) := by
  rcases a with _ | s
  · rfl
  · by_cases empty : s = "" <;> simp [preferText, filled, Option.filter_some, empty]

lemma preferText_assoc (a b c : Option String) :
    preferText (preferText a b) c = preferText a (preferText b c) := by
  rcases a with _ | s
  · rfl
  · by_cases empty : s = "" <;> simp [preferText, empty]

lemma merge_assoc (a b c : Hints) (h : b.attributes.Distinct) :
    (a.merge b).merge c = a.merge (b.merge c) := by
  have container : (if (a.merge b).container = "div" then c.container else (a.merge b).container) =
      if a.container = "div" then (b.merge c).container else a.container := by
    by_cases given : a.container = "div" <;> simp [merge, given]
  simp only [merge, mk.injEq]
  exact ⟨preferText_assoc _ _ _, Attributes.update_update _ h, container, preferText_assoc _ _ _⟩

/-- The names to which sources give values: those of the last source as they stand, then of each
earlier one those that are new. -/
def namesOf : List Hints → List String
  | [] => []
  | h :: rest => namesOf rest ++ h.attributes.names.filter (· ∉ namesOf rest)

/-- The hints that come out of sources, the earlier of which count first. -/
structure Prevails (sources : List Hints) (h : Hints) : Prop where
  text : filled h.text = sources.findSome? fun s => filled s.text
  tag : filled h.tag = sources.findSome? fun s => filled s.tag
  container : h.container = ((sources.map (·.container)).find? (· ≠ "div")).getD "div"
  values : ∀ name, h.attributes.lookup name = sources.findSome? (·.attributes.lookup name)
  names : h.attributes.names = namesOf sources

lemma Prevails.alone (h : Hints) : Prevails [h] h where
  text := by simp
  tag := by simp
  container := by by_cases given : h.container = "div" <;> simp [given]
  values name := by simp
  names := by simp [namesOf]

lemma mem_namesOf {sources : List Hints} {name : String} :
    name ∈ namesOf sources ↔ ∃ s ∈ sources, name ∈ s.attributes.names := by
  induction sources with
  | nil => simp [namesOf]
  | cons s rest ih =>
    simp only [namesOf, List.mem_append, List.mem_filter, List.mem_cons, exists_eq_or_imp]
    by_cases later : name ∈ namesOf rest
    · simp [later, ih.mp later]
    · simp [later, ← ih]

lemma namesOf_nodup {sources : List Hints} (h : ∀ s ∈ sources, s.attributes.Distinct) :
    (namesOf sources).Nodup := by
  induction sources with
  | nil => exact List.nodup_nil
  | cons s rest ih =>
    obtain ⟨first, others⟩ := List.forall_mem_cons.mp h
    refine List.nodup_append.mpr ⟨ih others, first.filter _, ?_⟩
    rintro name there _ new rfl
    simpa [there] using (List.mem_filter.mp new).2

/-- What is found is found in the first source, or else in the others. -/
lemma found_cons {α : Type} (view : Hints → Option α) (s : Hints) (rest : List Hints) :
    (s :: rest).findSome? view = (view s).or (rest.findSome? view) := by
  rw [List.findSome?_cons]
  cases view s <;> rfl

lemma Prevails.before {rest : List Hints} {h : Hints} (others : Prevails rest h) {s : Hints}
    (distinct : s.attributes.Distinct) : Prevails (s :: rest) (s.merge h) where
  text := by rw [found_cons, ← others.text, ← filled_preferText]; rfl
  tag := by rw [found_cons, ← others.tag, ← filled_preferText]; rfl
  container := by
    by_cases given : s.container = "div"
    · simpa [merge, given] using others.container
    · simp [merge, given]
  values name := by rw [found_cons, ← others.values, ← Attributes.lookup_update distinct]; rfl
  names := by rw [namesOf, ← others.names, ← Attributes.names_update distinct]; rfl

lemma infer_distinct (expression : String) : (infer expression).attributes.Distinct := by
  have none : Attributes.Distinct [] := List.nodup_nil
  exact none.update

end Hints

namespace Site

/-- Does the site have the page at this address? -/
def owns (url : String) : Site → Bool
  | plain => false
  | accountChooser a => a.host ≠ "" && Text.contains url a.host

/-- Text is always searched, up to the first site that it belongs to. -/
lemma find_text (sites : List Site) (url : String) :
    find sites (.text url) = .ok (sites.find? (·.owns url)) := by
  refine Failure.findFirst_ok (fun site => ?_) sites
  cases site with
  | plain => rfl
  | accountChooser a =>
    by_cases hostless : a.host = ""
    · simp [matchesUrl, AccountChooser.matchesUrl, owns, hostless]
    · by_cases empty : url = ""
      · simp [matchesUrl, AccountChooser.matchesUrl, owns, hostless, empty, Value.truthy,
          Text.contains, Text.occursIn]
      · simp [matchesUrl, AccountChooser.matchesUrl, owns, hostless, empty, Value.truthy]

lemma hintsFor_distinct {site : Site} {xpath : String} {h : Hints}
    (known : site.hintsFor xpath = some h) : h.attributes.Distinct := by
  cases site with
  | plain => cases known
  | accountChooser a =>
    simp only [hintsFor, AccountChooser.hintsFor] at known
    split at known
    · cases known
    · cases known
      exact List.nodup_singleton _

end Site

namespace Click

/-- The hints that count for a click on a page of a site: its own, those that its expression gives,
and those of the site. -/
def sourcesOn (c : Click) (site : Option Site) : List Hints :=
  c.hints.toList ++ Hints.infer c.xpath :: (site.bind (·.hintsFor c.xpath)).toList

/-- The hints that count on the page with an address, which belongs to the first site that has it. -/
def sources (c : Click) (sites : List Site) (url : String) : List Hints :=
  c.sourcesOn (sites.find? (·.owns url))

lemma sourcesOn_distinct {c : Click} {site : Option Site}
    (own : ∀ h ∈ c.hints, h.attributes.Distinct) :
    ∀ s ∈ c.sourcesOn site, s.attributes.Distinct := by
  intro s hs
  rcases List.mem_append.mp hs with hs | hs
  · exact own s (Option.mem_toList.mp hs)
  · rcases List.mem_cons.mp hs with rfl | hs
    · exact Hints.infer_distinct c.xpath
    · obtain ⟨site, -, known⟩ := Option.bind_eq_some_iff.mp (Option.mem_toList.mp hs)
      exact site.hintsFor_distinct known

/-- Merging from the left comes to merging from the right, where the earlier source stands alone. -/
lemma hintsOn_prevails (c : Click) (site : Option Site)
    (own : ∀ h ∈ c.hints, h.attributes.Distinct) :
    Hints.Prevails (c.sourcesOn site) (c.hintsOn site) := by
  have inferred := Hints.infer_distinct c.xpath
  unfold sourcesOn hintsOn
  rcases given : c.hints with _ | h <;> rcases site.bind (·.hintsFor c.xpath) with _ | k
  · exact .alone _
  · exact (Hints.Prevails.alone k).before inferred
  · exact (Hints.Prevails.alone _).before (own h given)
  · have first := ((Hints.Prevails.alone k).before inferred).before (own h given)
    rwa [← Hints.merge_assoc _ _ _ inferred] at first

/-- Three hints may be merged in either order. The hints of a click give each attribute the value of
the first source that has it, where the sources are the click's own hints, those of its expression
and those of the first site of the page; they have the attributes of all sources, each once, and
the first text and the first tag that are not empty, and the first container other than `div`. -/
theorem hints_by_source : (∀ a b c : Hints, b.attributes.Distinct →
      (a.merge b).merge c = a.merge (b.merge c)) ∧
    ∀ (c : Click) (sites : List Site) (url : String),
      (∀ h ∈ c.hints, h.attributes.Distinct) →
      ∃ h, c.resolveHints sites (.text url) = .ok h ∧
        Hints.Prevails (c.sources sites url) h ∧ h.attributes.Distinct ∧
        ∀ name, name ∈ h.attributes.names ↔
          ∃ s ∈ c.sources sites url, name ∈ s.attributes.names := by
  refine ⟨Hints.merge_assoc, fun c sites url own => ?_⟩
  have prevails := c.hintsOn_prevails (sites.find? (·.owns url)) own
  refine ⟨c.hintsOn (sites.find? (·.owns url)), ?_, prevails, ?_, fun name => ?_⟩
  · rw [resolveHints, Site.find_text]
    rfl
  · rw [Attributes.Distinct, prevails.names]
    exact Hints.namesOf_nodup (sourcesOn_distinct own)
  · rw [prevails.names, Hints.mem_namesOf]
    rfl

/-- Names that the sources share in several ways, an empty text and an empty tag. -/
theorem hints_by_source_overlapping :
    let a : Hints := { text := some "", attributes := [("id", "1"), ("title", "t")] }
    let b : Hints := { attributes := [("role", "r"), ("id", "2")], tag := some "" }
    let c : Hints := { text := some "Next", attributes := [("id", "3"), ("role", "s")] }
    let click : Click := { xpath := "//div[@data-email='b' and @id='x']", hints := some a }
    let site : Site := .accountChooser { host := "accounts.example", account := "ana" }
    b.attributes.Distinct ∧ (a.merge b).merge c = a.merge (b.merge c) ∧
      (∀ h ∈ click.hints, h.attributes.Distinct) ∧
      ∃ h, click.resolveHints [site] (.text "https://accounts.example/") = .ok h ∧
        Hints.Prevails (click.sources [site] "https://accounts.example/") h ∧
        h.attributes.Distinct ∧ ∀ name, name ∈ h.attributes.names ↔
          ∃ s ∈ click.sources [site] "https://accounts.example/", name ∈ s.attributes.names := by
  intro a b c click site
  have own : ∀ h ∈ click.hints, h.attributes.Distinct := by
    rintro h ⟨⟩
    decide
  exact ⟨by decide, hints_by_source.1 a b c (by decide), own,
    hints_by_source.2 click [site] "https://accounts.example/" own⟩

end Click

end Rehearsal
