import Rehearsal.Proofs.CapturePoints

/-!
# The order of the marks of a run

First the start, then for each action its attempts, if it is a loop whose attempts are
documented, and the action itself; the first action that fails is marked as an error and
nothing comes after it. The end is marked when every action is completed and there is
still a page. No mark stands twice in such an order.
-/

namespace Rehearsal.Run.Mark

/-- The attempts of a loop from the first on. -/
def loops (index count : Nat) : List Mark :=
  (List.range count).map fun k : Nat => .loop index (1 + k)

/-- Completed actions from a number on, each after its attempts, as many as are given. -/
def completed (index : Nat) : List Nat → List Mark
  | [] => []
  | count :: counts => loops index count ++ .action index :: completed (index + 1) counts

/-- The orders that the marks of a run of `n` actions can have. -/
inductive Course (n : Nat) : List Mark → Prop
  | unstarted : Course n []
  | begun : Course n [.initial]
  | stopped (counts : List Nat) (h : counts.length < n) (count : Nat) :
      Course n (.initial :: (completed 1 counts ++
        (loops (1 + counts.length) count ++ [.error (1 + counts.length)])))
  | pageless (counts : List Nat) (h : counts.length = n) :
      Course n (.initial :: completed 1 counts)
  | finished (counts : List Nat) (h : counts.length = n) :
      Course n (.initial :: (completed 1 counts ++ [.final]))

lemma mem_loops {index count : Nat} {m : Mark} (h : m ∈ loops index count) :
    ∃ k, m = .loop index k := by
  obtain ⟨k, -, rfl⟩ := List.mem_map.mp h
  exact ⟨_, rfl⟩

/-- Completed actions have the numbers they are counted by. -/
lemma mem_completed {index : Nat} {counts : List Nat} {m : Mark}
    (h : m ∈ completed index counts) : ∃ i, index ≤ i ∧ i < index + counts.length ∧
      (m = .action i ∨ ∃ k, m = .loop i k) := by
  induction counts generalizing index with
  | nil => cases h
  | cons count counts ih =>
    rcases List.mem_append.mp h with h | h
    · exact ⟨index, Nat.le_refl _, by simp, .inr (mem_loops h)⟩
    · rcases List.mem_cons.mp h with rfl | h
      · exact ⟨index, Nat.le_refl _, by simp, .inl rfl⟩
      · obtain ⟨i, hlo, hhi, hm⟩ := ih h
        refine ⟨i, by omega, ?_, hm⟩
        simp only [List.length_cons]
        omega

lemma loops_nodup (index count : Nat) : (loops index count).Nodup := by
  refine List.nodup_range.map fun j k h => ?_
  have := (Mark.loop.inj h).2
  omega

lemma completed_nodup (index : Nat) (counts : List Nat) : (completed index counts).Nodup := by
  induction counts generalizing index with
  | nil => exact List.nodup_nil
  | cons count counts ih =>
    have later : Mark.action index ∉ completed (index + 1) counts ∧
        ∀ k, Mark.loop index k ∉ completed (index + 1) counts := by
      constructor
      · intro h
        obtain ⟨i, hi, -, heq | ⟨k, heq⟩⟩ := mem_completed h <;> cases heq
        omega
      · intro k h
        obtain ⟨i, hi, -, heq | ⟨k, heq⟩⟩ := mem_completed h <;> cases heq
        omega
    refine List.nodup_append.mpr ⟨loops_nodup index count,
      List.nodup_cons.mpr ⟨later.1, ih _⟩, ?_⟩
    intro m hm m' hm' heq
    obtain ⟨k, rfl⟩ := mem_loops hm
    subst heq
    rcases List.mem_cons.mp hm' with h | h
    · cases h
    · exact later.2 k h

/-- What comes before the completed actions and what comes after them is not among them. -/
lemma completed_apart {index : Nat} {counts : List Nat} {m : Mark}
    (h : m ∈ completed index counts) : m ≠ .initial ∧ m ≠ .final ∧ (∀ j, m ≠ .error j) ∧
      ∀ j k, index + counts.length ≤ j → m ≠ .loop j k := by
  obtain ⟨i, -, hi, rfl | ⟨n, rfl⟩⟩ := mem_completed h
  · simp
  · refine ⟨nofun, nofun, nofun, fun j k hj heq => ?_⟩
    cases heq
    omega

/-- The marks of an action that has failed, which are new after those of completed actions. -/
lemma stopped_nodup (counts : List Nat) (count : Nat) :
    (completed 1 counts ++ (loops (1 + counts.length) count ++
      [Mark.error (1 + counts.length)])).Nodup := by
  have last : (loops (1 + counts.length) count ++ [Mark.error (1 + counts.length)]).Nodup := by
    refine List.nodup_append.mpr ⟨loops_nodup _ _, List.nodup_singleton _, ?_⟩
    intro m hm m' hm' heq
    obtain ⟨k, rfl⟩ := mem_loops hm
    cases heq.trans (List.mem_singleton.mp hm')
  refine List.nodup_append.mpr ⟨completed_nodup 1 counts, last, ?_⟩
  intro m hm m' hm' heq
  subst heq
  obtain ⟨-, -, noError, noLoop⟩ := completed_apart hm
  rcases List.mem_append.mp hm' with hm' | hm'
  · obtain ⟨k, rfl⟩ := mem_loops hm'
    exact noLoop _ k (Nat.le_refl _) rfl
  · exact noError _ (List.mem_singleton.mp hm')

/-- No mark stands twice. -/
lemma Course.nodup {n : Nat} {marks : List Mark} (h : Course n marks) : marks.Nodup := by
  have fresh (counts : List Nat) : Mark.initial ∉ completed 1 counts :=
    fun h => (completed_apart h).1 rfl
  cases h with
  | unstarted => exact List.nodup_nil
  | begun => exact List.nodup_singleton _
  | stopped counts h count =>
    refine List.nodup_cons.mpr ⟨fun hm => ?_, stopped_nodup counts count⟩
    rcases List.mem_append.mp hm with hm | hm
    · exact fresh counts hm
    · rcases List.mem_append.mp hm with hm | hm
      · obtain ⟨k, hk⟩ := mem_loops hm
        cases hk
      · cases List.mem_singleton.mp hm
  | pageless counts h => exact List.nodup_cons.mpr ⟨fresh counts, completed_nodup 1 counts⟩
  | finished counts h =>
    refine List.nodup_cons.mpr ⟨by simp [fresh], List.nodup_append.mpr
      ⟨completed_nodup 1 counts, List.nodup_singleton _, ?_⟩⟩
    intro m hm m' hm' heq
    exact (completed_apart hm).2.1 (heq.trans (List.mem_singleton.mp hm'))

end Rehearsal.Run.Mark
