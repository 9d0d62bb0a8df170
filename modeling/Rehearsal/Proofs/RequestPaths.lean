import Mathlib.Data.List.TakeDrop
import Mathlib.Data.List.TakeWhile
import Rehearsal.Proofs.ByteText
import Rehearsal.Server.Route

/-!
# The path that an address asks for

What follows the directory in the address of a stored image is cut at a question mark or number
sign, loses tabs and line ends, and has its percent escapes decoded. So a name that is put there as
it is comes back exactly when it has none of these.
-/

namespace Rehearsal.Server

open Text

/-- Tabs and line ends are dropped from an address. -/
def isKept (c : Char) : Bool := c != '\t' && c != '\r' && c != '\n'

/-- The query or the fragment ends a path. -/
def isInside (c : Char) : Bool := c != '?' && c != '#'

/-- A name that stands for itself in an address. -/
structure Literal (name : List Char) : Prop where
  kept : ∀ c ∈ name, isKept c = true
  inside : ∀ c ∈ name, isInside c = true
  unescaped : ∀ a b, ['%', a, b] <:+: name → ¬ (Address.isHex a = true ∧ Address.isHex b = true)

/-- What is left of the end of a path in an address. -/
def asked (s : List Char) : List Char := (s.filter isKept).takeWhile isInside

lemma asked_cons {c : Char} (kept : isKept c = true) (inside : isInside c = true)
    (s : List Char) : asked (c :: s) = c :: asked s := by
  unfold asked
  rw [List.filter_cons_of_pos kept, List.takeWhile_cons_of_pos inside]

/-- What comes through is asked for as it is. -/
lemma asked_append {front : List Char} (kept : ∀ c ∈ front, isKept c = true)
    (inside : ∀ c ∈ front, isInside c = true) (s : List Char) :
    asked (front ++ s) = front ++ asked s := by
  unfold asked
  rw [List.filter_append, List.filter_eq_self.mpr kept, List.takeWhile_append_of_pos inside]

lemma asked_kept {s : List Char} : ∀ c ∈ asked s, isKept c = true := fun _ h =>
  (List.mem_filter.mp ((List.takeWhile_sublist _).subset h)).2

lemma asked_inside {s : List Char} : ∀ c ∈ asked s, isInside c = true := fun _ h =>
  List.mem_takeWhile_imp h

lemma asked_eq_self {s : List Char} : asked s = s ↔
    (∀ c ∈ s, isKept c = true) ∧ ∀ c ∈ s, isInside c = true := by
  constructor
  · intro whole
    exact whole ▸ ⟨asked_kept, asked_inside⟩
  · rintro ⟨kept, inside⟩
    have whole := asked_append kept inside []
    rwa [show asked [] = [] from rfl, List.append_nil] at whole

lemma asked_sublist (s : List Char) : (asked s).Sublist s :=
  (List.takeWhile_sublist _).trans List.filter_sublist

lemma splitScheme_slash (s : List Char) :
    Address.splitScheme ('/' :: s) = ([], '/' :: s) := by
  have first : ('/' :: s).takeWhile (· != ':') = '/' :: s.takeWhile (· != ':') :=
    List.takeWhile_cons_of_pos (by decide)
  unfold Address.splitScheme cutAt
  rw [List.span_eq_takeWhile_dropWhile, first]
  rcases ('/' :: s).dropWhile (· != ':') with _ | ⟨c, rest⟩
  · rfl
  · exact if_neg (by simp)

section Letters

variable {c : Char} (letter : c.isAlpha = true) (s : List Char)
include letter

/-- A path that starts with a letter below the root loses only tabs and line ends. -/
lemma clean_letter : Address.clean ('/' :: c :: s) = '/' :: c :: s.filter isKept := by
  have cut : ('/' :: c :: s).dropWhile (fun c => c.toNat ≤ 32) = '/' :: c :: s :=
    List.dropWhile_cons_of_neg (by decide)
  have root : isKept '/' = true := by decide
  have kept : isKept c = true := by
    unfold isKept
    simp only [Bool.and_eq_true, bne_iff_ne]
    refine ⟨⟨?_, ?_⟩, ?_⟩ <;>
    · rintro rfl
      cases letter
  change (('/' :: c :: s).dropWhile fun c => c.toNat ≤ 32).filter isKept = _
  rw [cut, List.filter_cons_of_pos root, List.filter_cons_of_pos kept]

lemma letter_ne_slash : c ≠ '/' := by
  rintro rfl
  cases letter

lemma letter_inside : isInside c = true := by
  unfold isInside
  simp only [Bool.and_eq_true, bne_iff_ne]
  constructor <;>
  · rintro rfl
    cases letter

/-- Such a path is its own path but for what does not come through. -/
lemma rawPath_letter : rawPath ('/' :: c :: s) = '/' :: c :: asked s := by
  have slash := letter_ne_slash letter
  have root : isInside '/' = true := by decide
  unfold rawPath asked
  rw [clean_letter letter, splitScheme_slash]
  dsimp only
  split
  · next same =>
    cases same
    exact absurd rfl slash
  · refine (List.takeWhile_cons_of_pos root).trans (congrArg _ ?_)
    exact List.takeWhile_cons_of_pos (letter_inside letter)

/-- It names no authority. -/
lemma authority_letter :
    Address.authorityOf (Address.splitScheme (Address.clean ('/' :: c :: s))).2 = [] := by
  have slash := letter_ne_slash letter
  rw [clean_letter letter, splitScheme_slash]
  unfold Address.authorityOf
  dsimp only
  split
  · next same =>
    cases same
    exact absurd rfl slash
  · rfl

/-- So it can be requested. -/
lemma checkTarget_letter {target : String} (h : target.toList = '/' :: c :: s) :
    checkTarget target = .ok () := by
  unfold checkTarget
  dsimp only
  rw [h, rawPath_letter letter, authority_letter letter, authority_letter letter]
  rfl

end Letters

/-! Escapes. -/

lemma bytesOf_singleton (c : Char) : bytesOf (String.singleton c) = charBytes c := by
  have single : String.singleton c = String.ofList [c] := String.singleton_eq_ofList
  rw [single, bytesOf_ofList, List.flatMap_singleton]

lemma unescape_other {c : Char} (other : c ≠ '%') (s : List Char) :
    unescape (c :: s) = charBytes c ++ unescape s := by
  rw [unescape.eq_2 c s fun _ _ _ escape _ => other escape, bytesOf_singleton]

/-- An escape is one byte, and everything else stands for its own bytes. -/
lemma unescape_append {front : List Char} (plain : '%' ∉ front) (s : List Char) :
    unescape (front ++ s) = front.flatMap charBytes ++ unescape s := by
  induction front with
  | nil => rfl
  | cons c front ih =>
    obtain ⟨other, plain⟩ := List.ne_and_not_mem_of_not_mem_cons plain
    rw [List.cons_append, unescape_other other.symm, ih plain, List.flatMap_cons, List.append_assoc]

/-- Without escapes there are the bytes of the text. -/
lemma unescape_unescaped {s : List Char}
    (h : ∀ a b, ['%', a, b] <:+: s → ¬ (Address.isHex a = true ∧ Address.isHex b = true)) :
    unescape s = s.flatMap charBytes := by
  have later {c : Char} {s : List Char}
      (h : ∀ a b, ['%', a, b] <:+: c :: s → ¬ (Address.isHex a = true ∧ Address.isHex b = true)) :
      ∀ a b, ['%', a, b] <:+: s → ¬ (Address.isHex a = true ∧ Address.isHex b = true) :=
    fun a b found => h a b (found.trans (List.infix_cons (List.infix_refl s)))
  fun_induction unescape s with
  | case1 a b rest escape ih =>
    have first : ['%', a, b] <:+: '%' :: a :: b :: rest :=
      (List.prefix_append ['%', a, b] rest).isInfix
    exact absurd (Bool.and_eq_true_iff.mp escape) (h a b first)
  | case2 a b rest escape ih =>
    have percent : bytesOf "%" = charBytes '%' := bytesOf_singleton '%'
    rw [ih (later h), percent, List.flatMap_cons (x := '%')]
  | case3 c rest other ih =>
    rw [ih (later h), bytesOf_singleton, List.flatMap_cons]
  | case4 => rfl

lemma lowBytes_append (a b : List Nat) : lowBytes (a ++ b) = lowBytes a + lowBytes b :=
  List.countP_append

lemma lowBytes_charBytes (c : Char) : lowBytes (charBytes c) = asciis [c] := by
  have coded := coded c
  unfold lowBytes asciis
  generalize charBytes c = bytes at coded
  cases coded with
  | one low => simp [low]
  | two high _ =>
    have ascii : ¬ c.toNat < 128 := by omega
    simp [ascii]
  | three high _ =>
    have ascii : ¬ c.toNat < 128 := by omega
    simp [ascii]
  | four high =>
    have ascii : ¬ c.toNat < 128 := by omega
    simp [ascii]

lemma asciis_cons (c : Char) (s : List Char) : asciis (c :: s) = asciis [c] + asciis s := by
  have split : c :: s = [c] ++ s := rfl
  rw [split]
  exact List.countP_append

lemma asciis_hex {c : Char} (h : Address.isHex c = true) : asciis [c] = 1 := by
  have low : c.toNat < 0x80 := by
    have below {d : Char} (bound : c ≤ d) (low : d.toNat < 0x80) : c.toNat < 0x80 :=
      Nat.lt_of_le_of_lt bound low
    unfold Address.isHex hexValue? at h
    split at h
    · next digit => exact below digit.2 (by decide)
    · split at h
      · next small => exact below small.2 (by decide)
      · split at h
        · next capital => exact below capital.2 (by decide)
        · cases h
  simp [asciis, low]

/-- An escape is one byte in place of three, so bytes of ASCII characters are lost with it. -/
lemma lowBytes_unescape (s : List Char) : lowBytes (unescape s) ≤ asciis s ∧
    ∀ a b, ['%', a, b] <:+: s → Address.isHex a = true ∧ Address.isHex b = true →
      lowBytes (unescape s) < asciis s := by
  have percent : asciis ['%'] = 1 := rfl
  fun_induction unescape s with
  | case1 a b rest escape ih =>
    obtain ⟨first, second⟩ := Bool.and_eq_true_iff.mp escape
    have one : lowBytes [hexNumber [a, b]] ≤ 1 := List.countP_le_length
    have bytes := lowBytes_append [hexNumber [a, b]] (unescape rest)
    rw [List.singleton_append] at bytes
    rw [asciis_cons '%', asciis_cons a, asciis_cons b, asciis_hex first, asciis_hex second, bytes]
    constructor
    · omega
    · intro _ _ _ _
      omega
  | case2 a b rest escape ih =>
    have bytes : lowBytes (bytesOf "%") = 1 :=
      (congrArg lowBytes (bytesOf_singleton '%')).trans (lowBytes_charBytes '%')
    rw [asciis_cons '%', percent, lowBytes_append, bytes]
    refine ⟨by omega, fun c d found hex => ?_⟩
    rcases List.infix_cons_iff.mp found with first | later
    · obtain ⟨-, rfl, rfl⟩ : True ∧ c = a ∧ d = b := by simpa using first
      exact absurd (Bool.and_eq_true_iff.mpr hex) escape
    · have less := ih.2 c d later hex
      omega
  | case3 c rest other ih =>
    have more := asciis_cons c rest
    rw [bytesOf_singleton, lowBytes_append, lowBytes_charBytes]
    refine ⟨by omega, fun a b found hex => ?_⟩
    rcases List.infix_cons_iff.mp found with first | later
    · obtain ⟨rest', same⟩ := first
      cases same
      exact (other a b rest' rfl rfl).elim
    · have less := ih.2 a b later hex
      omega
  | case4 =>
    refine ⟨le_refl _, fun a b found _ => ?_⟩
    cases List.infix_nil.mp found

/-! Names. -/

/-- What is dropped or cut off takes ASCII characters away. -/
lemma asked_whole {s : List Char} (h : asciis s ≤ asciis (asked s)) : asked s = s := by
  induction s with
  | nil => rfl
  | cons c s ih =>
    have fewer : asciis (asked s) ≤ asciis s := (asked_sublist s).countP_le
    have more := asciis_cons c s
    by_cases kept : isKept c = true
    · by_cases inside : isInside c = true
      · rw [asked_cons kept inside] at h ⊢
        have whole := asciis_cons c (asked s)
        rw [ih (by omega)]
      · have cut : asked (c :: s) = [] := by
          unfold asked
          rw [List.filter_cons_of_pos kept, List.takeWhile_cons_of_neg inside]
        have ascii : asciis [c] = 1 := by
          have sign : c = '?' ∨ c = '#' := by
            by_contra other
            exact inside (by simpa [isInside] using other)
          rcases sign with rfl | rfl <;> rfl
        rw [cut] at h
        have none : asciis [] = 0 := rfl
        omega
    · have dropped : asked (c :: s) = asked s := by
        unfold asked
        rw [List.filter_cons_of_neg kept]
      have ascii : asciis [c] = 1 := by
        have blank : c = '\t' ∨ c = '\r' ∨ c = '\n' := by
          by_contra other
          exact kept (by simpa [isKept, and_assoc] using other)
        rcases blank with rfl | rfl | rfl <;> rfl
      rw [dropped] at h
      omega

/-- The name that is asked for by way of another one. -/
def readBack (name : List Char) : List Char := ofBytesFrom 0 (unescape (asked name))

/-- A name comes back exactly when it stands for itself. -/
theorem readBack_eq_self {name : List Char} : readBack name = name ↔ Literal name := by
  unfold readBack
  constructor
  · intro same
    have ascii : asciis name ≤ lowBytes (unescape (asked name)) := by
      conv_lhs => rw [← same]
      exact asciis_ofBytesFrom 0 _
    obtain ⟨bytes, escaped⟩ := lowBytes_unescape (asked name)
    have whole : asked name = name := asked_whole (Nat.le_trans ascii bytes)
    rw [whole] at ascii escaped
    obtain ⟨kept, inside⟩ := asked_eq_self.mp whole
    refine ⟨kept, inside, fun a b found hex => ?_⟩
    exact absurd (escaped a b found hex) (Nat.not_lt.mpr ascii)
  · intro literal
    rw [asked_eq_self.mpr ⟨literal.kept, literal.inside⟩, unescape_unescaped literal.unescaped]
    have whole := ofBytesFrom_append name []
    rwa [List.append_nil, show ofBytesFrom 0 [] = [] from rfl, List.append_nil] at whole

/-- The letters in front of the name in the address of a stored image. -/
def front : List Char := ['s', 'c', 'r', 'e', 'e', 'n', 's', 'h', 'o', 't', 's', '/']

lemma screenshot_letters (name : String) :
    ("/screenshots/" ++ name).toList = '/' :: (front ++ name.toList) :=
  String.toList_append

lemma screenshot_filled (name : String) : "/screenshots/" ++ name ≠ "" := by
  intro empty
  have none := congrArg String.toList empty
  rw [screenshot_letters] at none
  cases none

lemma rawPath_front (s : List Char) : rawPath ('/' :: (front ++ s)) = '/' :: (front ++ asked s) := by
  have kept : ∀ c ∈ front.tail, isKept c = true := List.all_eq_true.mp (by decide)
  have inside : ∀ c ∈ front.tail, isInside c = true := List.all_eq_true.mp (by decide)
  refine (rawPath_letter (c := 's') (by decide) _).trans ?_
  exact congrArg (['/', 's'] ++ ·) (asked_append kept inside s)

lemma checkTarget_screenshot (name : String) : checkTarget ("/screenshots/" ++ name) = .ok () :=
  checkTarget_letter (c := 's') (by decide) _ (screenshot_letters name)

/-- The path of an address below the directory of screenshots is that of the name read back. -/
lemma pathOf_screenshot (name : String) :
    pathOf ("/screenshots/" ++ name) =
      "/screenshots/" ++ String.ofList (readBack name.toList) := by
  have again : asked (asked name.toList) = asked name.toList :=
    asked_eq_self.mpr ⟨asked_kept, asked_inside⟩
  have decoded : ofBytes (unescape (rawPath (rawPath ("/screenshots/" ++ name).toList))) =
      "/screenshots/" ++ String.ofList (readBack name.toList) := by
    have plain : '%' ∉ '/' :: front := by decide
    rw [screenshot_letters, rawPath_front, rawPath_front, again, ← List.cons_append,
      unescape_append plain, ofBytes, ofBytesFrom_append]
    refine String.toList_injective ?_
    rw [screenshot_letters, String.toList_ofList, String.toList_ofList]
    rfl
  unfold pathOf
  dsimp only
  rw [decoded, if_neg (screenshot_filled _), screenshot_letters,
    List.dropWhile_cons_of_pos (by decide)]
  refine String.toList_injective ?_
  rw [screenshot_letters, String.toList_ofList]
  rfl

/-- A name that stands for itself is what its address asks for. -/
lemma pathOf_literal {name : String} (literal : Literal name.toList) :
    pathOf ("/screenshots/" ++ name) = "/screenshots/" ++ name := by
  rw [pathOf_screenshot, readBack_eq_self.mpr literal, String.ofList_toList]

end Rehearsal.Server
