import Rehearsal.Proofs.TargetDeeds

/-!
# The calls of a loop's hook

A loop calls its hook after each attempt that missed the reference and left a page to
go on with, counting from one. Whatever a loop adds to the ledger, the hook has added.
-/

namespace Rehearsal

open Play

/-- The newest first: what the head gives comes last. -/
lemma reverse_filterMap_cons {α β : Type} (f : α → Option β) (a : α) (l : List α) :
    ((a :: l).filterMap f).reverse = (l.filterMap f).reverse ++ (f a).toList := by
  cases h : f a <;> simp [h]

namespace Target

variable {τ : Type} [Clock τ]

/-- A call of a loop's hook, and the stage on which it is called. -/
structure HookCall (τ : Type) where
  page : Nat
  attempt : Int
  stage : Stage τ

/-- The calls of the hook that the attempts from `attempt` on make, `left` of them. -/
def hookCalls (plan : LoopPlan τ) (l : Loop) (reference : String)
    (hook : Nat → Int → Play τ Unit) (attempt : Int) (page : Nat) :
    Nat → Stage τ → List (HookCall τ)
  | 0, _ => []
  | left + 1, s => match takeTurn plan l reference page s with
    | (.done (.missed page _), t) => ⟨page, attempt, t⟩ :: match hook page attempt t with
      | (.done (), u) => hookCalls plan l reference hook (attempt + 1) page left u
      | _ => []
    | _ => []

variable (plan : LoopPlan τ) (l : Loop) (reference : String) (hook : Nat → Int → Play τ Unit)

/-- The calls count the attempts without a gap. -/
lemma hookCalls_attempts (attempt : Int) (page left : Nat) (s : Stage τ) :
    ∃ n : Nat, (hookCalls plan l reference hook attempt page left s).map (·.attempt) =
      (List.range n).map fun k : Nat => attempt + k := by
  induction left generalizing attempt page s with
  | zero => exact ⟨0, rfl⟩
  | succ left ih =>
    unfold hookCalls
    split
    · next other _ t _ =>
      split
      · next u _ =>
        obtain ⟨n, hn⟩ := ih (attempt + 1) other u
        have shift : (fun k : Nat => attempt + 1 + (k : Int)) =
            (fun k : Nat => attempt + (k : Int)) ∘ Nat.succ := by
          funext k
          simp only [Function.comp_apply]
          omega
        refine ⟨n + 1, ?_⟩
        rw [List.map_cons, hn, List.range_succ_eq_map, List.map_cons, List.map_map, shift]
        simp
      · exact ⟨1, by simp⟩
    · exact ⟨0, rfl⟩

/-- All that a loop adds to the ledger are the entries of its hook. -/
lemma loopFrom_ledger (bound : Int) (entry : HookCall τ → Option Record)
    (hooked : ∀ c : HookCall τ,
      (hook c.page c.attempt c.stage).2.ledger = (entry c).toList ++ c.stage.ledger)
    (attempt : Int) (page : Nat) (lastError : Option String) (left : Nat) (s : Stage τ) :
    (loopFrom plan l reference bound hook attempt page lastError left s).2.ledger =
      ((hookCalls plan l reference hook attempt page left s).filterMap entry).reverse ++
        s.ledger := by
  induction left generalizing attempt page lastError s with
  | zero => rfl
  | succ left ih =>
    have quiet : Within (Deeds plan.pageTimeout noRecord) False
        (takeTurn plan l reference page) := takeTurn_deeds plan l reference page
    unfold loopFrom hookCalls
    rcases ht : takeTurn plan l reference page s with ⟨turn | f | _, t⟩
    · have same : t.ledger = s.ledger := (quiet.stage ht).ledger
      rw [bind_done ht, ← same]
      cases turn with
      | reached other => rfl
      | missed other error =>
        have added := hooked ⟨other, attempt, t⟩
        dsimp only at added ⊢
        rcases hh : hook other attempt t with ⟨⟨⟩ | f | _, u⟩ <;> rw [hh] at added
        · rw [bind_done hh, ih, reverse_filterMap_cons, List.append_assoc, ← added]
        · rw [bind_failed hh, reverse_filterMap_cons]
          exact added
        · rw [bind_endless hh, reverse_filterMap_cons]
          exact added
    · rw [bind_failed ht]
      exact (quiet.stage ht).ledger
    · exact absurd (congrArg Prod.fst ht) (quiet.ends s)

/-- A call that fails ends the loop with its failure. -/
lemma loopFrom_failed (bound : Int) {c : HookCall τ} {f : Failure}
    (hf : (hook c.page c.attempt c.stage).1 = .failed f)
    (attempt : Int) (page : Nat) (lastError : Option String) (left : Nat) (s : Stage τ)
    (hc : c ∈ hookCalls plan l reference hook attempt page left s) :
    (loopFrom plan l reference bound hook attempt page lastError left s).1 = .failed f := by
  induction left generalizing attempt page lastError s with
  | zero => cases hc
  | succ left ih =>
    unfold hookCalls at hc
    unfold loopFrom
    rcases ht : takeTurn plan l reference page s with ⟨turn | g | _, t⟩ <;> rw [ht] at hc
    · cases turn with
      | reached other => cases hc
      | missed other error =>
        rw [bind_done ht]
        dsimp only at hc ⊢
        rcases List.mem_cons.mp hc with rfl | hc
        · rcases hh : hook other attempt t with ⟨⟨⟩ | g | _, u⟩ <;> rw [hh] at hf <;> cases hf
          rw [bind_failed hh]
        · rcases hh : hook other attempt t with ⟨⟨⟩ | g | _, u⟩ <;> rw [hh] at hc
          · rw [bind_done hh]
            exact ih _ _ _ u hc
          · cases hc
          · cases hc
    · cases hc
    · cases hc

end Target
end Rehearsal
