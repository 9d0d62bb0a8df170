import Mathlib.Data.List.Basic
import Rehearsal.Settings.Loading
/-!
# Where the value of a setting comes from

Variables and the file are merged by the exact names of their entries, and only then are names read
without regard to case, the last entry for a setting counting. So a variable decides over the file
and the file over the standard settings, unless the file names the setting twice: an entry spelled
like the setting keeps its place when a variable replaces its value, and one spelled otherwise that
stands behind it counts in the end.
-/
namespace Rehearsal

namespace Text

lemma toLower_cases (c : Char) :
    c.toLower = c ∨ 97 ≤ c.toLower.toNat ∧ c.toLower.toNat ≤ 122 := by
  by_cases capital : c.val ≥ 'A'.val ∧ c.val ≤ 'Z'.val
  · right
    have lowered : c.toLower.val = c.val + ('a'.val - 'A'.val) :=
      congrArg Char.val (dif_pos capital)
    simp only [ge_iff_le, UInt32.le_iff_toNat_le, Char.toNat, lowered, UInt32.toNat_add] at capital ⊢
    have : 'A'.val.toNat = 65 := rfl
    have : 'Z'.val.toNat = 90 := rfl
    have : ('a'.val - 'A'.val).toNat = 32 := rfl
    omega
  · exact .inl (dif_neg capital)

lemma lowerChar_small {c : Char} (h : 97 ≤ c.toNat ∧ c.toNat ≤ 122) : lowerChar c = c := by
  have kelvin : c ≠ '\u212a' := by
    rintro rfl
    revert h
    decide
  rw [lowerChar, if_neg (by simpa using kelvin)]
  refine dif_neg fun capital => ?_
  have upper : c.toNat ≤ 90 := UInt32.le_iff_toNat_le.1 capital.2
  omega

theorem lowerChar_lowerChar (c : Char) : lowerChar (lowerChar c) = lowerChar c := by
  by_cases kelvin : c = '\u212a'
  · subst kelvin
    decide
  · have lowered : lowerChar c = c.toLower := if_neg (by simpa using kelvin)
    rw [lowered]
    rcases toLower_cases c with same | small
    · rw [same, lowered, same]
    · exact lowerChar_small small

theorem lower_ofList (l : List Char) :
    lower (String.ofList l) = String.ofList (l.map lowerChar) := by
  rw [lower, String.toList_ofList]

theorem lower_lower (s : String) : lower (lower s) = lower s := by
  conv_rhs => rw [lower]
  simp only [lower, String.toList_ofList, List.map_map, Function.comp_def, lowerChar_lowerChar]

end Text

theorem Key.ofName_eq_some {s : String} {k : Key} : ofName s = some k ↔ s = k.name := by
  have named : ∀ k ∈ every, ofName k.name = some k := by decide +kernel
  constructor
  · intro h
    simpa [eq_comm] using List.find?_some h
  · rintro rfl
    exact named k (mem_every k)

namespace Settings

open Text

variable {k : Key} {fields rest new : List (String × Value)} {name : String} {v : Value}

/-- The value that the last entry for a setting states. -/
def stated (k : Key) : List (String × Value) → Option Value
  | [] => none
  | (name, v) :: rest =>
    (stated k rest).or (if Key.ofName (lower name) = some k then some v else none)

/-- Does an entry of another spelling stand behind the one that is spelled like the setting? -/
def overtaken (k : Key) : List (String × Value) → Bool
  | [] => false
  | (name, _) :: rest => if name = k.name then (stated k rest).isSome else overtaken k rest

theorem stated_append : stated k (fields ++ new) = (stated k new).or (stated k fields) := by
  induction fields with
  | nil => simp [stated]
  | cons f rest ih => rw [List.cons_append, stated, stated, ih, Option.or_assoc]

/-! ## One assignment -/

lemma named_iff (folded : lower name = name) :
    Key.ofName (lower name) = some k ↔ name = k.name := by
  rw [folded, Key.ofName_eq_some]

lemma lower_name (k : Key) : lower k.name = k.name := by
  cases k <;> exact (lower_ofList _).trans (congrArg String.ofList (by decide))

lemma stated_cons_own : stated k ((k.name, v) :: rest) = (stated k rest).or (some v) := by
  rw [stated, if_pos ((named_iff (lower_name k)).2 rfl)]

theorem stated_assign_own : stated k (Value.assign fields k.name v) =
    if overtaken k fields then stated k fields else some v := by
  induction fields with
  | nil => simp [Value.assign, stated_cons_own, stated, overtaken]
  | cons f rest ih =>
    obtain ⟨name, old⟩ := f
    by_cases own : name = k.name
    · subst own
      cases behind : stated k rest <;>
        simp [Value.assign, stated_cons_own, overtaken, behind]
    · rw [Value.assign, if_neg own, stated, ih, stated, overtaken, if_neg own]
      split <;> simp

theorem stated_assign_other (folded : lower name = name) (other : name ≠ k.name) :
    stated k (Value.assign fields name v) = stated k fields := by
  have unnamed : ¬ Key.ofName (lower name) = some k := fun h => other ((named_iff folded).1 h)
  induction fields with
  | nil => simp [Value.assign, stated, unnamed]
  | cons f rest ih =>
    obtain ⟨found, old⟩ := f
    by_cases same : found = name
    · subst same
      simp [Value.assign, stated, unnamed]
    · rw [Value.assign, if_neg same, stated, ih, stated]

theorem overtaken_assign (folded : lower name = name) :
    overtaken k (Value.assign fields name v) = overtaken k fields := by
  induction fields with
  | nil => by_cases own : name = k.name <;> simp [Value.assign, overtaken, own, stated]
  | cons f rest ih =>
    obtain ⟨found, old⟩ := f
    by_cases same : found = name
    · subst same
      simp [Value.assign, overtaken]
    · rw [Value.assign, if_neg same, overtaken, overtaken, ih]
      by_cases own : found = k.name
      · rw [if_pos own, if_pos own, stated_assign_other folded (own ▸ fun h => same h.symm)]
      · rw [if_neg own, if_neg own]

/-! ## The merge -/

/-- Entries from the environment have their names in lower case. -/
def Folded (fields : List (String × Value)) : Prop := ∀ f ∈ fields, lower f.1 = f.1

theorem stated_updated (folded : Folded new) : stated k (updated fields new) =
    if overtaken k fields then stated k fields else (stated k new).or (stated k fields) := by
  induction new generalizing fields with
  | nil => simp [updated, stated]
  | cons f rest ih =>
    obtain ⟨name, v⟩ := f
    have first : lower name = name := folded (name, v) List.mem_cons_self
    have others : Folded rest := fun f h => folded f (List.mem_cons_of_mem _ h)
    rw [updated, List.foldl_cons, ← updated, ih others, overtaken_assign first]
    by_cases own : name = k.name
    · subst own
      rw [stated_assign_own, stated_cons_own, Option.or_assoc, Option.some_or]
      cases overtaken k fields <;> simp
    · have unnamed : ¬ Key.ofName (lower name) = some k := fun h => own ((named_iff first).1 h)
      rw [stated_assign_other first own, stated, if_neg unnamed, Option.or_none]

lemma mem_assign {f : String × Value} (h : f ∈ Value.assign fields name v) :
    f ∈ fields ∨ f = (name, v) := by
  induction fields with
  | nil => exact .inr (List.mem_singleton.1 h)
  | cons g rest ih =>
    obtain ⟨found, old⟩ := g
    by_cases same : found = name
    · rw [Value.assign, if_pos same, List.mem_cons] at h
      rcases h with rfl | h
      · exact .inr (by rw [same])
      · exact .inl (List.mem_cons_of_mem _ h)
    · rw [Value.assign, if_neg same, List.mem_cons] at h
      rcases h with rfl | h
      · exact .inl List.mem_cons_self
      · exact (ih h).imp (List.mem_cons_of_mem _) id

lemma mem_updated {f : String × Value} (h : f ∈ updated fields new) : f ∈ fields ++ new := by
  induction new generalizing fields with
  | nil => simpa [updated] using h
  | cons g rest ih =>
    have later : f ∈ Value.assign fields g.1 g.2 ++ rest := ih h
    rcases List.mem_append.1 later with h | h
    · rcases mem_assign h with h | rfl
      · exact List.mem_append_left _ h
      · exact List.mem_append_right _ List.mem_cons_self
    · exact List.mem_append_right _ (List.mem_cons_of_mem _ h)

/-- What the environment says about settings, name by name; the last entry counts. -/
def spoken (env : Environment) : List (String × Value) :=
  listeningVariable env ++ env.filterMap ofVariable

lemma folded_spoken (env : Environment) : Folded (spoken env) := by
  intro f member
  rcases List.mem_append.1 member with listening | named
  · unfold listeningVariable at listening
    split at listening
    · split at listening
      · cases listening
      · rw [List.mem_singleton.1 listening]
        exact lower_name .serverPort
    · cases listening
  · obtain ⟨v, -, named⟩ := List.mem_filterMap.1 named
    unfold ofVariable at named
    split at named
    · rw [← Option.some.inj named]
      exact lower_lower _
    · cases named

theorem stated_ofEnvironment (env : Environment) :
    stated k (ofEnvironment env) = stated k (spoken env) := by
  have alone : overtaken k (listeningVariable env) = false := by
    unfold listeningVariable
    split
    · split <;> simp [overtaken, stated]
    · rfl
  have folded : Folded (env.filterMap ofVariable) := fun f h =>
    folded_spoken env f (List.mem_append_right _ h)
  rw [ofEnvironment, stated_updated folded, alone, spoken, stated_append]
  rfl

/-! ## Reading what was merged -/

/-- An entry that names no setting, or one that its value converts to. -/
def Converts (f : String × Value) : Prop :=
  ∀ k ∈ Key.ofName (lower f.1), (Convert.value k.kind f.2).isOk

instance (f : String × Value) : Decidable (Converts f) :=
  inferInstanceAs (Decidable (∀ k ∈ _, _))

lemma Converts.value {f : String × Value} (h : Converts f)
    (named : Key.ofName (lower f.1) = some k) : ∃ x, Convert.value k.kind f.2 = .ok x := by
  have converted := h k named
  cases value : Convert.value k.kind f.2 with
  | error fault => simp [value, Except.isOk, Except.toBool] at converted
  | ok x => exact ⟨x, rfl⟩

theorem takeAll_stated (s : Settings) (converts : ∀ f ∈ fields, Converts f) :
    ∃ t, s.takeAll fields = .ok t ∧ ∀ k, (stated k fields = none → t k = s k) ∧
      ∀ v, stated k fields = some v → Convert.value k.kind v = .ok (t k) := by
  induction fields generalizing s with
  | nil => exact ⟨s, rfl, fun k => ⟨fun _ => rfl, fun v h => by cases h⟩⟩
  | cons f rest ih =>
    obtain ⟨name, v⟩ := f
    have others : ∀ f ∈ rest, Converts f := fun f h => converts f (List.mem_cons_of_mem _ h)
    cases named : Key.ofName (lower name) with
    | none =>
      obtain ⟨t, read, each⟩ := ih s others
      refine ⟨t, by simp [takeAll, take, named, read], fun k => ?_⟩
      simpa [stated, named] using each k
    | some j =>
      obtain ⟨x, converted⟩ := (converts _ List.mem_cons_self).value named
      obtain ⟨t, read, each⟩ := ih (s.assign j x) others
      refine ⟨t, by simp [takeAll, take, named, converted, read], fun k => ?_⟩
      obtain ⟨unstated, last⟩ := each k
      cases later : stated k rest with
      | some w => simpa [stated, later] using last w later
      | none =>
        rw [stated, later, named, Option.none_or]
        by_cases same : j = k
        · subst same
          have kept : t j = x := (unstated later).trans (assign_same s j x)
          simpa [kept] using converted
        · have kept : t k = s k := (unstated later).trans (assign_other s x (Ne.symm same))
          simpa [same] using kept

/-- Who decides about a setting: the environment if it names it, unless the file overtakes it, then
the file, then the standard settings. -/
structure Sourced (k : Key) (table spoken : List (String × Value)) (settings : Settings) :
    Prop where
  environment : overtaken k table = false → ∀ v, stated k spoken = some v →
    Convert.value k.kind v = .ok (settings k)
  file : stated k spoken = none ∨ overtaken k table = true → ∀ v, stated k table = some v →
    Convert.value k.kind v = .ok (settings k)
  neither : stated k spoken = none → stated k table = none → settings k = standard k

theorem load_sourced {fs : Files} {given : Option String} {env : Environment}
    {document table : Toml.Table} (readable : readTable fs (filePath given env) = .ok document)
    (own : ownTable document = .ok table) (converts : ∀ f ∈ table ++ spoken env, Converts f) :
    ∃ settings, load fs given env = .ok settings ∧
      ∀ k, Sourced k table (spoken env) settings := by
  have merged : ∀ f ∈ updated table (ofEnvironment env), Converts f := fun f h => by
    rcases List.mem_append.1 (mem_updated h) with h | h
    · exact converts f (List.mem_append_left _ h)
    · exact converts f (List.mem_append_right _ (mem_updated h))
  have folded : Folded (ofEnvironment env) := fun f h => folded_spoken env f (mem_updated h)
  obtain ⟨settings, read, each⟩ := takeAll_stated standard merged
  refine ⟨settings, by rw [load, readable]; simp only [own, ofFields, read], fun k => ?_⟩
  obtain ⟨unstated, last⟩ := each k
  rw [stated_updated folded, stated_ofEnvironment] at unstated last
  refine ⟨fun first v said => last v ?_, fun silent v said => last v ?_,
    fun silent unsaid => unstated ?_⟩
  · rw [first, said]
    rfl
  · rcases silent with silent | overtaken
    · rw [silent, said]
      split <;> rfl
    · rw [if_pos overtaken, said]
  · rw [silent, unsaid]
    split <;> rfl

/-- A file that names the locale twice, first as the setting is spelled. -/
def respelled : Files where
  home := []
  entries := [(["config.toml"],
    .file ⟨.text "[scraper]\nlocale = \"en-US\"\nLOCALE = \"fr-FR\"\n", 0⟩)]

/-- A variable for the locale, which the file overtakes, and one for a setting the file does not
name. -/
theorem load_sourced_respelled : ∃ document table settings,
    readTable respelled (filePath none [("SCRAPER_LOCALE", "de-DE"), ("PORT", "8080")]) =
      .ok document ∧ ownTable document = .ok table ∧
    (∀ f ∈ table ++ spoken [("SCRAPER_LOCALE", "de-DE"), ("PORT", "8080")], Converts f) ∧
    load respelled none [("SCRAPER_LOCALE", "de-DE"), ("PORT", "8080")] = .ok settings ∧
    ∀ k, Sourced k table (spoken [("SCRAPER_LOCALE", "de-DE"), ("PORT", "8080")]) settings := by
  have checked : (((readTable respelled
      (filePath none [("SCRAPER_LOCALE", "de-DE"), ("PORT", "8080")])).bind ownTable).map
        fun table => decide (∀ f ∈ table ++
          spoken [("SCRAPER_LOCALE", "de-DE"), ("PORT", "8080")],
          Converts f)) = .ok true := by decide +kernel
  cases readable : readTable respelled
      (filePath none [("SCRAPER_LOCALE", "de-DE"), ("PORT", "8080")]) with
  | error f => rw [readable] at checked; cases checked
  | ok document =>
    cases own : ownTable document with
    | error f => rw [readable, Except.bind, own] at checked; cases checked
    | ok table =>
      rw [readable, Except.bind, own] at checked
      have converts := of_decide_eq_true (Except.ok.inj checked)
      obtain ⟨settings, loaded, each⟩ := load_sourced readable own converts
      exact ⟨document, table, settings, rfl, own, converts, loaded, each⟩

/-- The file decides although the environment names the locale. -/
theorem variable_overtaken : ∃ settings,
    load respelled none [("SCRAPER_LOCALE", "de-DE")] = .ok settings ∧
    stated .locale (spoken [("SCRAPER_LOCALE", "de-DE")]) = some (.text "de-DE") ∧
    settings .locale = "fr-FR" := by
  have loaded : (load respelled none [("SCRAPER_LOCALE", "de-DE")]).map (· .locale) =
      .ok "fr-FR" := by decide +kernel
  generalize load respelled none [("SCRAPER_LOCALE", "de-DE")] = result at loaded ⊢
  cases result with
  | error f => cases loaded
  | ok settings => exact ⟨settings, rfl, rfl, Except.ok.inj loaded⟩

end Settings
end Rehearsal
