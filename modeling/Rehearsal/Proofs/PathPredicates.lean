import Rehearsal.Proofs.AttributeSelectors
import Rehearsal.Proofs.HintSources

/-!
# Reading the predicates of a path expression

A step of a path expression compares attributes with literals. A literal stands between two quotes
of one kind and may hold quotes of the other kind. Where no value holds a quote, the hints of the
step are its comparisons, in order, and its element name, whatever else the values hold: what looks
like a predicate, a step or a bracket in a value is never read as one, since each reading goes on
behind the closing quote. A value that holds a quote is never read whole: the reader takes either
kind of quote for the end of the value.
-/

namespace Rehearsal

namespace Selector

open Text

/-! ## What is written -/

/-- A comparison of an attribute with a literal: `@name = 'value'`, with blanks around the sign. The
quote is not in the value, the other kind of quote may be. -/
structure Comparison where
  name : String
  value : String
  quote : Char
  before : String := ""
  after : String := ""
  named : IsName name
  filled : value ≠ ""
  quotes : isQuote quote = true
  apart : quote ∉ value.toList
  blank : ∀ c ∈ before.toList ++ after.toList, isBlank c = true

/-- A step with an element name or a star, and comparisons that must all hold. -/
def step (element : String) (ps : List String) : String :=
  "//" ++ element ++ "[" ++ " and ".intercalate ps ++ "]"

namespace Comparison

def text (p : Comparison) : String :=
  "@" ++ p.name ++ p.before ++ "=" ++ p.after ++ String.singleton p.quote ++ p.value ++
    String.singleton p.quote

/-- No quote of either kind is in the value. -/
def Plain (p : Comparison) : Prop := ∀ c ∈ p.value.toList, isQuote c = false

instance (p : Comparison) : Decidable p.Plain := List.decidableBAll _ _

/-- The value up to the first quote in it. -/
def front (p : Comparison) : List Char := p.value.toList.takeWhile fun c => !isQuote c

/-- What stands behind that quote, up to the end of the literal. -/
def back (p : Comparison) : List Char := (p.value.toList.dropWhile fun c => !isQuote c).drop 1

end Comparison

/-! ## Characters that end a name or a run of blanks -/

/-- The blanks above ASCII, as spans like those of the word characters. -/
def blankSpans : List (Nat × Nat) :=
  [(0x85, 0x85), (0xA0, 0xA0), (0x1680, 0x1680), (0x2000, 0x200A), (0x2028, 0x2029),
    (0x202F, 0x202F), (0x205F, 0x205F), (0x3000, 0x3000)]

lemma spans_apart : ∀ w ∈ wordSpans.toList, ∀ b ∈ blankSpans, w.2 < b.1 ∨ b.2 < w.1 := by
  decide +kernel

lemma isBlank_span {c : Char} (h : isBlank c = true) (wide : 128 ≤ c.toNat) :
    ∃ b ∈ blankSpans, b.1 ≤ c.toNat ∧ c.toNat ≤ b.2 := by
  simp only [isBlank, isWhite, Bool.or_eq_true, Bool.and_eq_true, decide_eq_true_eq,
    beq_iff_eq] at h
  simp only [blankSpans, List.mem_cons, exists_eq_or_imp, List.not_mem_nil, false_and, exists_false]
  omega

lemma isNameChar_of_isBlank {c : Char} (h : isBlank c = true) : isNameChar c = false := by
  by_cases narrow : c.toNat < 128
  · have unnamed : ∀ n ∈ List.range' 9 5 ++ List.range' 28 5, isNameChar (Char.ofNat n) = false := by
      decide
    have listed : c.toNat ∈ List.range' 9 5 ++ List.range' 28 5 := by
      simp only [isBlank, isWhite, Bool.or_eq_true, Bool.and_eq_true, decide_eq_true_eq,
        beq_iff_eq] at h
      simp only [List.mem_append, List.mem_range'_1]
      omega
    simpa only [Char.ofNat_toNat] using unnamed _ listed
  · obtain ⟨b, hb, inside⟩ := isBlank_span h (by omega)
    have hyphen : c ≠ '-' := by
      rintro rfl
      exact narrow (by decide)
    have outside : wordSpans.any (fun w => w.1 ≤ c.toNat && c.toNat ≤ w.2) = false := by
      rw [← Array.any_toList, List.any_eq_false]
      intro w hw
      have := spans_apart w hw b hb
      simp only [Bool.and_eq_true, decide_eq_true_eq]
      omega
    rw [isNameChar, isWord, if_neg narrow, Bool.or_eq_false_iff]
    exact ⟨outside, by simpa using hyphen⟩

lemma ne_quote {c q : Char} (h : isQuote q = true) (other : isQuote c = false) : c ≠ q := by
  rintro rfl
  exact absurd (h.symm.trans other) (by decide)

lemma isBlank_of_isQuote {c : Char} (h : isQuote c = true) : isBlank c = false := by
  simp only [isQuote, Bool.or_eq_true, beq_iff_eq] at h
  rcases h with rfl | rfl <;> decide

lemma skipBlanks_append {blanks after : List Char} {c : Char}
    (blank : ∀ b ∈ blanks, isBlank b = true) (ends : isBlank c = false) :
    skipBlanks (blanks ++ c :: after) = c :: after := by
  rw [skipBlanks, List.dropWhile_append_of_pos blank, List.dropWhile_cons_of_neg (by simp [ends])]

/-- Blanks and a sign end a name. -/
lemma name?_before {name blanks after : List Char} (filled : name ≠ [])
    (named : ∀ c ∈ name, isNameChar c) (blank : ∀ b ∈ blanks, isBlank b = true) :
    name? (name ++ (blanks ++ '=' :: after)) = some (name, blanks ++ '=' :: after) := by
  cases blanks with
  | nil => exact name?_append filled named (by decide)
  | cons b more =>
    exact name?_append filled named (isNameChar_of_isBlank (blank b List.mem_cons_self))

/-! ## Literals -/

lemma span_quote {value after : List Char} {q : Char} (plain : ∀ c ∈ value, isQuote c = false)
    (quotes : isQuote q = true) :
    (value ++ q :: after).span (fun c => !isQuote c) = (value, q :: after) := by
  have unquoted : ∀ c ∈ value, (!isQuote c) = true := fun c hc => by simp [plain c hc]
  exact span_ends unquoted (by simp [quotes])

/-- A value without quotes is read up to the next quote, of whichever kind. -/
lemma literal?_append {value after : List Char} {q r : Char} (opens : isQuote q = true)
    (filled : value ≠ []) (plain : ∀ c ∈ value, isQuote c = false) (closes : isQuote r = true) :
    literal? (q :: (value ++ r :: after)) = some (value, after) := by
  rw [literal?, span_quote plain closes]
  cases value with
  | nil => exact absurd rfl filled
  | cons c more => simp [opens]

/-- Two quotes hold nothing. -/
lemma literal?_bare {after : List Char} {q r : Char} (closes : isQuote r = true) :
    literal? (q :: r :: after) = none := by
  have plain : ∀ c ∈ ([] : List Char), isQuote c = false := nofun
  rw [literal?, ← List.nil_append (r :: after), span_quote plain closes]
  split <;> rfl

/-- What is read has no quotes. -/
lemma literal?_plain {s value after : List Char} (h : literal? s = some (value, after)) :
    ∀ c ∈ value, isQuote c = false := by
  unfold literal? at h
  split at h
  · cases h
  · next q rest =>
    split at h
    · cases h
    · rw [List.span_eq_takeWhile_dropWhile] at h
      split at h
      · cases h
      · cases h
      · next _ found =>
        cases h
        intro c hc
        rw [← (Prod.mk.inj found).1] at hc
        simpa using List.mem_takeWhile_imp hc

/-! ## Comparisons -/

lemma equalsLiteral?_before {blanks more after : List Char} {q : Char}
    (blank : ∀ b ∈ blanks ++ more, isBlank b = true) (quotes : isQuote q = true) :
    equalsLiteral? (blanks ++ '=' :: (more ++ q :: after)) = literal? (q :: after) := by
  obtain ⟨front, back⟩ := List.forall_mem_append.mp blank
  rw [equalsLiteral?, skipBlanks_append front (by decide)]
  exact congrArg literal? (skipBlanks_append back (isBlank_of_isQuote quotes))

namespace Comparison

variable (p : Comparison) (after : List Char)

/-- What stands behind the name: a sign with blanks around it, and a literal. -/
def tail : List Char :=
  p.before.toList ++ '=' :: (p.after.toList ++ p.quote :: (p.value.toList ++ p.quote :: after))

lemma tail_append : p.tail [] ++ after = p.tail after := by
  simp [tail]

lemma text_toList : p.text.toList = '@' :: (p.name.toList ++ p.tail []) := by
  simp [text, tail]

lemma value_ne_nil : p.value.toList ≠ [] := by
  simpa using p.filled

lemma equalsLiteral?_tail : equalsLiteral? (p.tail after) =
    literal? (p.quote :: (p.value.toList ++ p.quote :: after)) :=
  equalsLiteral?_before p.blank p.quotes

lemma name?_tail : name? (p.name.toList ++ p.tail after) = some (p.name.toList, p.tail after) :=
  name?_before p.named.1 p.named.2 (List.forall_mem_append.mp p.blank).1

lemma attribute?_text : attribute? ('@' :: (p.name.toList ++ p.tail after)) =
    (literal? (p.quote :: (p.value.toList ++ p.quote :: after))).map
      fun (value, rest) => ((p.name.toList, value), rest) := by
  rw [attribute?, name?_tail, ← equalsLiteral?_tail]

variable {p}

/-- The value of a plain literal is read whole. -/
lemma Plain.literal (plain : p.Plain) :
    literal? (p.quote :: (p.value.toList ++ p.quote :: after)) = some (p.value.toList, after) :=
  literal?_append p.quotes p.value_ne_nil plain p.quotes

end Comparison

/-! ## Looking through an expression -/

/-- Nothing begins without the sign of an attribute. -/
lemma attributesFrom_skip {s after : List Char} (h : '@' ∉ s) :
    attributesFrom 0 (s ++ after) = attributesFrom 0 after := by
  induction s with
  | nil => rfl
  | cons c rest ih =>
    obtain ⟨other, later⟩ := not_or.mp (mt List.mem_cons.mpr h)
    have none : attribute? (c :: (rest ++ after)) = none := by
      unfold attribute?
      split
      · next same => exact absurd (List.cons.inj same).1.symm other
      · rfl
    rw [List.cons_append, attributesFrom, none]
    exact ih later

lemma attributesFrom_covered (s after : List Char) :
    attributesFrom s.length (s ++ after) = attributesFrom 0 after := by
  induction s with
  | nil => rfl
  | cons c rest ih => exact ih

/-- After a predicate that is found, the next one is looked for behind it. -/
lemma attributesFrom_found {c : Char} {s after : List Char} {found : List Char × List Char}
    (h : attribute? (c :: (s ++ after)) = some (found, after)) :
    attributesFrom 0 (c :: (s ++ after)) = found :: attributesFrom 0 after := by
  have covered : (s ++ after).length - after.length = s.length := by
    rw [List.length_append, Nat.add_sub_cancel]
  rw [attributesFrom, h]
  dsimp only
  rw [covered, attributesFrom_covered]

/-- Where nothing is found the next position is looked at. -/
lemma attributesFrom_missed {c : Char} {s : List Char} (h : attribute? (c :: s) = none) :
    attributesFrom 0 (c :: s) = attributesFrom 0 s := by
  rw [attributesFrom, h]

lemma equalsLiteral?_plain {s value after : List Char}
    (h : equalsLiteral? s = some (value, after)) : ∀ c ∈ value, isQuote c = false := by
  unfold equalsLiteral? at h
  split at h
  · exact literal?_plain h
  · cases h

lemma attribute?_plain {s after : List Char} {found : List Char × List Char}
    (h : attribute? s = some (found, after)) : ∀ c ∈ found.2, isQuote c = false := by
  unfold attribute? at h
  split at h
  · split at h
    · cases h
    · obtain ⟨⟨value, rest⟩, read, same⟩ := Option.map_eq_some_iff.mp h
      cases same
      exact equalsLiteral?_plain read
  · cases h

/-- Whatever is found has no quotes in its value. -/
lemma attributesFrom_plain {s : List Char} {covered : Nat} {found : List Char × List Char}
    (h : found ∈ attributesFrom covered s) : ∀ c ∈ found.2, isQuote c = false := by
  induction s generalizing covered with
  | nil => cases covered <;> cases h
  | cons c rest ih =>
    cases covered with
    | succ n => exact ih h
    | zero =>
      unfold attributesFrom at h
      split at h
      · next read =>
        rcases List.mem_cons.mp h with rfl | h
        · exact attribute?_plain read
        · exact ih h
      · exact ih h

lemma firstFound_here {α : Type} {read : List Char → Option α} {s : List Char} {a : α}
    (h : read s = some a) : firstFound read s = some a := by
  cases s with
  | nil => exact h
  | cons c rest => rw [firstFound, h, Option.some_or]

/-- What is found first is read somewhere. -/
lemma firstFound_read {α : Type} {read : List Char → Option α} {s : List Char} {a : α}
    (h : firstFound read s = some a) : ∃ t, read t = some a := by
  induction s with
  | nil => exact ⟨[], h⟩
  | cons c rest ih =>
    rcases Option.or_eq_some_iff.mp h with here | ⟨-, later⟩
    · exact ⟨c :: rest, here⟩
    · exact ih later

lemma firstFound_skip {α : Type} {read : List Char → Option α} {s : List Char}
    (h : ∀ c ∈ s, ∀ t, read (c :: t) = none) (after : List Char) :
    firstFound read (s ++ after) = firstFound read after := by
  induction s with
  | nil => rfl
  | cons c rest ih =>
    obtain ⟨first, others⟩ := List.forall_mem_cons.mp h
    rw [List.cons_append, firstFound, first, ih others, Option.none_or]

/-! ## Steps -/

lemma attributesFrom_text {p : Comparison} (plain : p.Plain) (after : List Char) :
    attributesFrom 0 (p.text.toList ++ after) =
      (p.name.toList, p.value.toList) :: attributesFrom 0 after := by
  have read := p.attribute?_text after
  rw [plain.literal, ← p.tail_append, ← List.append_assoc] at read
  rw [p.text_toList]
  exact attributesFrom_found read

/-- Plain comparisons are found one after another, up to the closing bracket. -/
lemma attributesFrom_texts {ps : List Comparison} (plain : ∀ p ∈ ps, p.Plain) :
    attributesFrom 0 ((" and ".intercalate (ps.map Comparison.text)).toList ++ [']']) =
      ps.map fun p => (p.name.toList, p.value.toList) := by
  induction ps with
  | nil => rfl
  | cons p rest ih =>
    obtain ⟨first, others⟩ := List.forall_mem_cons.mp plain
    cases rest with
    | nil =>
      rw [List.map_cons, List.map_nil, String.intercalate_singleton, attributesFrom_text first]
      rfl
    | cons q more =>
      have joined : (" and ".intercalate ((p :: q :: more).map Comparison.text)).toList ++ [']'] =
          p.text.toList ++ (" and ".toList ++
            ((" and ".intercalate ((q :: more).map Comparison.text)).toList ++ [']'])) := by
        simp [String.intercalate_cons_cons]
      rw [joined, attributesFrom_text first, attributesFrom_skip (by decide), ih others]
      rfl

lemma step_toList (element : String) (ps : List String) : (step element ps).toList =
    ("//" ++ element ++ "[").toList ++ ((" and ".intercalate ps).toList ++ [']']) := by
  simp [step]

lemma attributesFrom_step {element : String} (h : '@' ∉ element.toList) {ps : List Comparison}
    (plain : ∀ p ∈ ps, p.Plain) : attributesFrom 0 (step element (ps.map (·.text))).toList =
      ps.map fun p => (p.name.toList, p.value.toList) := by
  rw [step_toList, attributesFrom_skip (by simpa using h), attributesFrom_texts plain]

/-! ## Element names -/

lemma comparesInside_text (p : Comparison) (after : List Char) :
    comparesInside ('@' :: (p.name.toList ++ p.tail after)) = true := by
  have signed : (skipBlanks (p.tail after)).head? = some '=' := by
    rw [Comparison.tail, skipBlanks_append (List.forall_mem_append.mp p.blank).1 (by decide)]
    rfl
  have compared : comparesAttribute ('@' :: (p.name.toList ++ p.tail after)) = true := by
    rw [comparesAttribute, p.name?_tail]
    exact beq_iff_eq.mpr signed
  rw [comparesInside, compared, Bool.true_or]

/-- The name in front of a bracket is read as it stands, if an attribute is compared behind it. -/
lemma tagAt?_bracket {tag : String} (tagged : IsTag tag) {inside : List Char}
    (compares : comparesInside inside = true) :
    tagAt? (tag.toList ++ '[' :: inside) = some tag.toList := by
  obtain ⟨c, rest, split, letter, named⟩ := tagged
  have bracket : skipBlanks ('[' :: inside) = '[' :: inside :=
    List.dropWhile_cons_of_neg (by decide)
  have spanned : (rest ++ '[' :: inside).span isNameChar = (rest, '[' :: inside) :=
    span_ends named (by decide)
  rw [split, List.cons_append, tagAt?, spanned]
  simp only [letter, bracket, compares, Bool.not_true, Bool.false_eq_true, if_true, if_false]

lemma texts_begin (p : Comparison) (rest : List Comparison) : ∃ after,
    (" and ".intercalate ((p :: rest).map Comparison.text)).toList ++ [']'] =
      '@' :: (p.name.toList ++ p.tail after) := by
  cases rest with
  | nil =>
    refine ⟨[']'], ?_⟩
    rw [List.map_cons, List.map_nil, String.intercalate_singleton, p.text_toList,
      ← p.tail_append [']'], List.cons_append, List.append_assoc]
  | cons q more =>
    refine ⟨" and ".toList ++
      ((" and ".intercalate ((q :: more).map Comparison.text)).toList ++ [']']), ?_⟩
    rw [← p.tail_append (_ ++ _)]
    simp [String.intercalate_cons_cons, p.text_toList]

lemma tagAt?_step {tag : String} (tagged : IsTag tag) {ps : List Comparison} (some : ps ≠ []) :
    firstFound tagAt? (step tag (ps.map (·.text))).toList = .some tag.toList := by
  obtain ⟨p, rest, rfl⟩ := List.exists_cons_of_ne_nil some
  obtain ⟨after, begins⟩ := texts_begin p rest
  have here : tagAt? (tag.toList ++ '[' :: '@' :: (p.name.toList ++ p.tail after)) =
      .some tag.toList := tagAt?_bracket tagged (comparesInside_text p after)
  have slash (s : List Char) : firstFound tagAt? ('/' :: s) = firstFound tagAt? s := rfl
  have spread : (step tag ((p :: rest).map (·.text))).toList =
      '/' :: '/' :: (tag.toList ++ '[' :: '@' :: (p.name.toList ++ p.tail after)) := by
    rw [step_toList, begins]
    simp
  rw [spread, slash, slash, firstFound_here here]

/-! ## Literals with quotes in them -/

namespace Comparison

variable {p : Comparison}

lemma front_plain : ∀ c ∈ p.front, isQuote c = false := by
  intro c hc
  simpa using List.mem_takeWhile_imp hc

lemma Plain.front_eq (plain : p.Plain) : p.front = p.value.toList :=
  List.takeWhile_eq_self_iff.mpr fun c hc => by simp [plain c hc]

lemma Plain.back_eq (plain : p.Plain) : p.back = [] := by
  have all : p.value.toList.dropWhile (fun c => !isQuote c) = [] :=
    List.dropWhile_eq_nil_iff.mpr fun c hc => by simp [plain c hc]
  rw [back, all, List.drop_nil]

/-- A value that is not plain is cut at its first quote. -/
lemma value_cut (cut : ¬ p.Plain) :
    ∃ r, isQuote r = true ∧ p.value.toList = p.front ++ r :: p.back := by
  have whole := List.takeWhile_append_dropWhile (p := fun c => !isQuote c) (l := p.value.toList)
  have ends := List.head?_dropWhile_not (fun c => !isQuote c) p.value.toList
  rcases rest : p.value.toList.dropWhile (fun c => !isQuote c) with _ | ⟨r, more⟩
  · refine absurd (fun c hc => ?_) cut
    simpa using List.dropWhile_eq_nil_iff.mp rest c hc
  · rw [rest] at ends
    refine ⟨r, by simpa using ends, ?_⟩
    rw [← whole, front, back, rest]
    rfl

variable (p) (after : List Char)

/-- What stands between the name and the value. -/
def lead : List Char := p.before.toList ++ '=' :: (p.after.toList ++ [p.quote])

lemma tail_eq : p.tail after = p.lead ++ (p.value.toList ++ p.quote :: after) := by
  simp [tail, lead]

lemma at_apart : '@' ∉ p.name.toList ++ p.lead := by
  have named : '@' ∉ p.name.toList := fun h => absurd (p.named.2 _ h) (by decide)
  have blank : '@' ∉ p.before.toList ++ p.after.toList := fun h => absurd (p.blank _ h) (by decide)
  have quoted : '@' ≠ p.quote := ne_quote p.quotes (by decide)
  simp only [lead, List.mem_append, List.mem_cons, List.not_mem_nil, not_or] at blank ⊢
  exact ⟨named, blank.1, by decide, blank.2, quoted, not_false⟩

/-- Of a literal the front of its value is read, if there is one, and then its back is looked
through like any other text. -/
lemma attributesFrom_literal : attributesFrom 0 (p.text.toList ++ after) =
    (if p.front = [] then [] else [(p.name.toList, p.front)]) ++
      attributesFrom 0 (p.back ++ p.quote :: after) := by
  by_cases plain : p.Plain
  · have quoted : '@' ∉ [p.quote] := fun h =>
      ne_quote p.quotes (by decide) (List.mem_singleton.mp h)
    rw [attributesFrom_text plain, plain.front_eq, plain.back_eq, if_neg p.value_ne_nil,
      List.nil_append, List.singleton_append, ← List.singleton_append (x := p.quote),
      attributesFrom_skip quoted]
  · obtain ⟨r, closes, cut⟩ := value_cut plain
    have read := p.attribute?_text after
    rw [cut, List.append_assoc, List.cons_append] at read
    rw [p.text_toList, List.cons_append, List.append_assoc, p.tail_append]
    by_cases empty : p.front = []
    · -- An empty front is no value, so the back is looked through from the inner quote on.
      have bare : attribute? ('@' :: (p.name.toList ++ p.tail after)) = none := by
        rw [read, empty, List.nil_append, literal?_bare closes]
        rfl
      have skipped : '@' ∉ p.name.toList ++ p.lead ++ [r] := by
        rw [List.mem_append, not_or]
        exact ⟨p.at_apart, fun h => ne_quote closes (by decide) (List.mem_singleton.mp h)⟩
      have spread : p.name.toList ++ p.tail after =
          p.name.toList ++ p.lead ++ [r] ++ (p.back ++ p.quote :: after) := by
        simp [tail_eq, cut, empty]
      rw [attributesFrom_missed bare, spread, attributesFrom_skip skipped, if_pos empty,
        List.nil_append]
    · have whole : attribute? ('@' :: (p.name.toList ++ p.tail after)) =
          some ((p.name.toList, p.front), p.back ++ p.quote :: after) := by
        rw [read, literal?_append p.quotes empty front_plain closes]
        rfl
      have spread : p.name.toList ++ p.tail after =
          p.name.toList ++ p.lead ++ p.front ++ [r] ++ (p.back ++ p.quote :: after) := by
        simp [tail_eq, cut]
      rw [spread] at whole ⊢
      rw [attributesFrom_found whole, if_neg empty, List.singleton_append]

/-- The front is what is read as the value. -/
lemma literal?_front (some : p.front ≠ []) : ∃ rest,
    literal? (p.quote :: (p.value.toList ++ p.quote :: after)) = .some (p.front, rest) := by
  by_cases plain : p.Plain
  · rw [plain.front_eq]
    exact ⟨after, plain.literal after⟩
  · obtain ⟨r, closes, cut⟩ := value_cut plain
    rw [cut, List.append_assoc, List.cons_append]
    exact ⟨_, literal?_append p.quotes some front_plain closes⟩

end Comparison

/-- The value compared with an attribute whose name begins here. -/
def valueAt? (name : String) (s : List Char) : Option (List Char) :=
  if name.toList.isPrefixOf s then (equalsLiteral? (s.drop name.length)).map (·.1) else none

lemma valueOf_eq (name expression : String) : valueOf name expression =
    (firstFound (valueAt? name) expression.toList).map String.ofList := rfl

lemma valueAt?_other {name : String} (named : IsName name) {c : Char} (other : isNameChar c = false)
    (after : List Char) : valueAt? name (c :: after) = none := by
  obtain ⟨first, rest, split⟩ := List.exists_cons_of_ne_nil named.1
  have apart : first ≠ c := by
    rintro rfl
    exact absurd (other.symm.trans (named.2 first (split ▸ List.mem_cons_self))) (by decide)
  rw [valueAt?, split, if_neg (by simp [apart])]

lemma valueAt?_plain {name : String} {s value : List Char} (h : valueAt? name s = some value) :
    ∀ c ∈ value, isQuote c = false := by
  unfold valueAt? at h
  split at h
  · obtain ⟨⟨_, rest⟩, read, rfl⟩ := Option.map_eq_some_iff.mp h
    exact equalsLiteral?_plain read
  · cases h

lemma valueAt?_tail (p : Comparison) (after : List Char) :
    valueAt? p.name (p.name.toList ++ p.tail after) =
      (literal? (p.quote :: (p.value.toList ++ p.quote :: after))).map (·.1) := by
  have here : p.name.toList.isPrefixOf (p.name.toList ++ p.tail after) = true := by simp
  have dropped : (p.name.toList ++ p.tail after).drop p.name.length = p.tail after := by
    rw [← String.length_toList, List.drop_left]
  rw [valueAt?, if_pos here, dropped, p.equalsLiteral?_tail]

lemma firstFound_valueAt?_step (p : Comparison) :
    firstFound (valueAt? p.name) (step "*" [p.text]).toList =
      firstFound (valueAt? p.name) (p.name.toList ++ p.tail [']']) := by
  have spread : (step "*" [p.text]).toList =
      ['/', '/', '*', '[', '@'] ++ (p.name.toList ++ p.tail [']']) := by
    rw [step_toList, String.intercalate_singleton, p.text_toList, ← p.tail_append [']']]
    simp
  have unnamed : ['/', '/', '*', '[', '@'].all (fun c => !isNameChar c) := rfl
  rw [spread, firstFound_skip fun c hc after =>
    valueAt?_other p.named (by simpa using List.all_eq_true.mp unnamed c hc) after]

end Selector

namespace Hints

open Selector

lemma attributes_step {element : String} (h : '@' ∉ element.toList) {ps : List Comparison}
    (plain : ∀ p ∈ ps, p.Plain) (distinct : (ps.map (·.name)).Nodup) :
    (infer (step element (ps.map (·.text)))).attributes = ps.map fun p => (p.name, p.value) := by
  have named : Attributes.Distinct (ps.map fun p => (p.name, p.value)) := by
    simpa [Attributes.Distinct, Attributes.names, Function.comp_def] using distinct
  have fresh : Attributes.update [] (ps.map fun p => (p.name, p.value)) = _ :=
    Attributes.update_fresh named
  simpa [infer, attributesFrom_step h plain, Function.comp_def] using fresh

/-- The hints of a step are its comparisons, in order, and its element name, if no value holds a
quote. Anything else may be in the values. -/
theorem step_read_exactly {tag : String} {ps : List Comparison} (tagged : IsTag tag)
    (some : ps ≠ []) (distinct : (ps.map (·.name)).Nodup) (plain : ∀ p ∈ ps, p.Plain) :
    (infer (step tag (ps.map (·.text)))).attributes = ps.map (fun p => (p.name, p.value)) ∧
      (infer (step tag (ps.map (·.text)))).tag = .some tag := by
  refine ⟨attributes_step (not_mem_tag tagged (by decide) (by decide)) plain distinct, ?_⟩
  simp only [infer, tagAt?_step tagged some, Option.map_some, String.ofList_toList]

/-- Values that look like brackets, steps and predicates. -/
theorem step_read_exactly_lookalikes :
    let first : Comparison :=
      { name := "data-id", value := "] and @x=", quote := '"', before := " ", after := "\t"
        named := ⟨by decide, List.all_eq_true.mp rfl⟩, filled := by decide, quotes := rfl
        apart := by decide, blank := List.all_eq_true.mp rfl }
    let second : Comparison :=
      { name := "title", value := "//p[@y", quote := '\''
        named := ⟨by decide, List.all_eq_true.mp rfl⟩, filled := by decide, quotes := rfl
        apart := by decide, blank := List.all_eq_true.mp rfl }
    let ps := [first, second]
    IsTag "h1" ∧ ps ≠ [] ∧ (ps.map (·.name)).Nodup ∧ (∀ p ∈ ps, p.Plain) ∧
      step "h1" (ps.map (·.text)) = "//h1[@data-id =\t\"] and @x=\" and @title='//p[@y']" ∧
      (infer (step "h1" (ps.map (·.text)))).attributes =
        [("data-id", "] and @x="), ("title", "//p[@y")] ∧
      (infer (step "h1" (ps.map (·.text)))).tag = some "h1" := by
  intro first second ps
  have tagged : IsTag "h1" := ⟨'h', ['1'], rfl, by decide, List.all_eq_true.mp rfl⟩
  have plain : ∀ p ∈ ps, p.Plain := by decide
  exact ⟨tagged, by simp [ps], by decide, plain, by decide,
    step_read_exactly tagged (by simp [ps]) (by decide) plain⟩

lemma attributes_literal (p : Comparison) : (infer (step "*" [p.text])).attributes =
    Attributes.update [] (((if p.front = [] then [] else [(p.name.toList, p.front)]) ++
      attributesFrom 0 (p.back ++ [p.quote, ']'])).map fun (name, value) =>
        (String.ofList name, String.ofList value)) := by
  have found : attributesFrom 0 (step "*" [p.text]).toList =
      (if p.front = [] then [] else [(p.name.toList, p.front)]) ++
        attributesFrom 0 (p.back ++ [p.quote, ']']) := by
    rw [step_toList, attributesFrom_skip (by decide), String.intercalate_singleton,
      p.attributesFrom_literal]
  rw [← found]
  rfl

lemma plain_of_lookup {p : Comparison} {expression : String}
    (h : (infer expression).attributes.lookup p.name = some p.value) : p.Plain := by
  rcases Attributes.mem_of_lookup_update h with found | absent
  · obtain ⟨⟨name, value⟩, found, same⟩ := List.mem_map.mp found
    have plain := attributesFrom_plain found
    intro c hc
    rw [← (Prod.mk.inj same).2, String.toList_ofList] at hc
    exact plain c hc
  · cases absent

lemma plain_of_valueOf {p : Comparison} {expression : String}
    (h : valueOf p.name expression = some p.value) : p.Plain := by
  rw [valueOf_eq] at h
  obtain ⟨value, found, same⟩ := Option.map_eq_some_iff.mp h
  obtain ⟨t, read⟩ := firstFound_read found
  intro c hc
  rw [← same, String.toList_ofList] at hc
  exact valueAt?_plain read c hc

lemma valueOf_literal {p : Comparison} (filled : p.front ≠ []) :
    valueOf p.name (step "*" [p.text]) = some (String.ofList p.front) := by
  obtain ⟨rest, read⟩ := p.literal?_front [']'] filled
  have here : valueAt? p.name (p.name.toList ++ p.tail [']']) = some p.front := by
    rw [valueAt?_tail, read]
    rfl
  rw [valueOf_eq, firstFound_valueAt?_step, firstFound_here here]
  rfl

/-- The literal of a single comparison is read whole exactly if no quote is in it, both for the
hints and for the value of an attribute. Otherwise it is cut at its first quote: what stands before
is taken for the value, unless it is empty, and what stands behind is looked through for more
predicates. -/
theorem literal_read_whole_iff (p : Comparison) :
    ((infer (step "*" [p.text])).attributes.lookup p.name = some p.value ↔ p.Plain) ∧
      (valueOf p.name (step "*" [p.text]) = some p.value ↔ p.Plain) ∧
      (p.front ≠ [] → valueOf p.name (step "*" [p.text]) = some (String.ofList p.front)) ∧
      (infer (step "*" [p.text])).attributes = Attributes.update []
        (((if p.front = [] then [] else [(p.name.toList, p.front)]) ++
          attributesFrom 0 (p.back ++ [p.quote, ']'])).map fun (name, value) =>
            (String.ofList name, String.ofList value)) := by
  refine ⟨⟨plain_of_lookup, fun plain => ?_⟩, ⟨plain_of_valueOf, fun plain => ?_⟩,
    valueOf_literal, attributes_literal p⟩
  · have alone : ∀ q ∈ [p], q.Plain := fun q hq => List.mem_singleton.mp hq ▸ plain
    have read : (infer (step "*" ([p].map (·.text)))).attributes =
        [p].map fun p => (p.name, p.value) :=
      attributes_step (by decide) alone (List.nodup_singleton p.name)
    rw [List.map_singleton, List.map_singleton] at read
    rw [read]
    exact List.lookup_cons_self
  · have whole := plain.front_eq
    rw [valueOf_literal (whole ▸ p.value_ne_nil), whole, String.ofList_toList]

/-- An apostrophe within double quotes, and double quotes within apostrophes. -/
theorem literal_read_whole_iff_apostrophe :
    let p : Comparison :=
      { name := "data-email", value := "o'hara@x.example", quote := '"'
        named := ⟨by decide, List.all_eq_true.mp rfl⟩, filled := by decide, quotes := rfl
        apart := by decide, blank := List.all_eq_true.mp rfl }
    p.front ≠ [] ∧ valueOf p.name (step "*" [p.text]) = some (String.ofList p.front) := by
  intro p
  exact ⟨by decide, (literal_read_whole_iff p).2.2.1 (by decide)⟩

/-- The account `o'hara@x.example`, asked for as a literal between double quotes, is taken for the
account `o`. -/
theorem account_truncated :
    let p : Comparison :=
      { name := "data-email", value := "o'hara@x.example", quote := '"'
        named := ⟨by decide, List.all_eq_true.mp rfl⟩, filled := by decide, quotes := rfl
        apart := by decide, blank := List.all_eq_true.mp rfl }
    let expression := "//*[@data-email=\"o'hara@x.example\"]"
    step "*" [p.text] = expression ∧ (infer expression).attributes = [("data-email", "o")] ∧
      valueOf "data-email" expression = some "o" ∧
      (infer expression).fallbacks expression =
        [.selector ("xpath=" ++ expression), .attributes "css=[data-email=\"o\"]"] ∧
      ({ host := "accounts.example", account := "ana" } : AccountChooser).hintsFor expression =
        some { text := some "o", attributes := [("data-email", "o")] } := by
  decide +kernel

end Hints

end Rehearsal
