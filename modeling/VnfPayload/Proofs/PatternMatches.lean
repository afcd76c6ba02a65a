import VnfPayload.Pattern

/-!
# What patterns match

`Pattern.Matches` says which parts of a text a pattern matches, by recursion on the pattern and
without a word on how matches are looked for.  `Pattern.ends` finds all ends of matches and nothing
else: `Pattern.mem_ends_iff`.

Only repetitions are not obvious, because the search breaks them off after as many steps as the
text has positions.  A longer run of steps has one that leads nowhere (`Steps.exists_stay`).  Such a
step can be left out or made again, so all longer runs lead to the same places
(`Steps.congr_of_long`).

Main statement: `Pattern.isIn_iff`.
-/

namespace VnfPayload

/-- A number of steps in a row lead from one position to another one. -/
def Steps (R : Nat → Nat → Prop) : Nat → Nat → Nat → Prop
  | 0, i, j => i = j
  | n + 1, i, j => ∃ k, R i k ∧ Steps R n k j

namespace Steps

variable {R : Nat → Nat → Prop} {i j : Nat}

theorem add_iff {m n : Nat} :
    Steps R (m + n) i j ↔ ∃ k, Steps R m i k ∧ Steps R n k j := by
  induction m generalizing i with
  | zero =>
      simp [Steps]
  | succ m ih =>
      rw [Nat.succ_add]
      simp only [Steps, ih]
      constructor
      · rintro ⟨l, hstep, k, hm, hn⟩
        exact ⟨k, ⟨l, hstep, hm⟩, hn⟩
      · rintro ⟨k, ⟨l, hstep, hm⟩, hn⟩
        exact ⟨l, hstep, k, hm, hn⟩

/-- Steps do not leave a set that no single step leaves. -/
theorem mem_of_closed {ps : List Nat} (hclosed : ∀ i ∈ ps, ∀ j, R i j → j ∈ ps) {n : Nat}
    (h : Steps R n i j) (hi : i ∈ ps) :
    j ∈ ps := by
  induction n generalizing i with
  | zero =>
      exact h ▸ hi
  | succ n ih =>
      obtain ⟨k, hstep, hrest⟩ := h
      exact ih hrest (hclosed i hi k hstep)

/-- Steps that never lead back, and lead on only within the text. -/
def Ascending (R : Nat → Nat → Prop) (size : Nat) : Prop :=
  ∀ i j, R i j → i = j ∨ i < j ∧ j ≤ size

variable {size n : Nat}

/-- Of more steps than there are positions left, one stays where it is. -/
theorem exists_stay (hR : Ascending R size) (hn : 0 < n) (hsize : size < i + n)
    (h : Steps R n i j) :
    ∃ m k, m < n ∧ Steps R m i k ∧ R k k ∧ Steps R (n - 1 - m) k j := by
  induction n generalizing i with
  | zero =>
      cases hn
  | succ n ih =>
      obtain ⟨k, hstep, hrest⟩ := h
      rcases hR i k hstep with rfl | ⟨hlt, hle⟩
      · exact ⟨0, i, Nat.succ_pos n, rfl, hstep, hrest⟩
      · obtain ⟨m, l, hm, hbefore, hstay, hafter⟩ :=
          ih (by omega) (by omega) hrest
        refine ⟨m + 1, l, by omega, ⟨k, hstep, hbefore⟩, hstay, ?_⟩
        rwa [show n + 1 - 1 - (m + 1) = n - 1 - m by omega]

theorem succ_iff (hR : Ascending R size) (hsize : size < n) :
    Steps R (n + 1) i j ↔ Steps R n i j := by
  constructor
  · intro h
    obtain ⟨m, k, hm, hbefore, -, hafter⟩ := exists_stay hR (by omega) (by omega) h
    rw [show n = m + (n + 1 - 1 - m) by omega]
    exact add_iff.mpr ⟨k, hbefore, hafter⟩
  · intro h
    obtain ⟨m, k, hm, hbefore, hstay, hafter⟩ := exists_stay hR (by omega) (by omega) h
    rw [show n + 1 = m + (n - 1 - m + 1 + 1) by omega]
    exact add_iff.mpr ⟨k, hbefore, k, hstay, k, hstay, hafter⟩

/-- All long runs of steps lead to the same places. -/
theorem congr_of_long (hR : Ascending R size) (hsize : size < n) :
    Steps R n i j ↔ Steps R (size + 1) i j := by
  induction hsize with
  | refl =>
      exact Iff.rfl
  | step hn ih =>
      rw [succ_iff hR hn, ih]

end Steps

namespace Pattern

open Steps (Ascending)

/-- The pattern matches from one position of the text to another one. -/
def Matches (text : Array Char) : Pattern → Nat → Nat → Prop
  | .empty, i, j => i = j
  | .chars set, i, j => j = i + 1 ∧ ∃ c, text[i]? = some c ∧ set.contains c = true
  | .assertion a word, i, j => i = j ∧ a.holds word (before text i) text[i]? = true
  | .seq p q, i, j => ∃ k, Matches text p i k ∧ Matches text q k j
  | .alt p q, i, j => Matches text p i j ∨ Matches text q i j
  | .repeated p min max, i, j =>
      ∃ more, (∀ m, max = some m → more ≤ m - min) ∧
        Steps (Matches text p) (min + more) i j

theorem ascending_matches (text : Array Char) (p : Pattern) :
    Ascending (Matches text p) text.size := by
  have htrans : ∀ {i k j : Nat}, (i = k ∨ i < k ∧ k ≤ text.size) →
      (k = j ∨ k < j ∧ j ≤ text.size) → (i = j ∨ i < j ∧ j ≤ text.size) := by
    omega
  induction p with
  | empty =>
      exact fun i j h => Or.inl h
  | chars set =>
      rintro i j ⟨rfl, c, hc, -⟩
      obtain ⟨hi, -⟩ := Array.getElem?_eq_some_iff.mp hc
      exact Or.inr ⟨Nat.lt_succ_self i, hi⟩
  | assertion a word =>
      exact fun i j h => Or.inl h.1
  | seq p q hp hq =>
      rintro i j ⟨k, h, h'⟩
      exact htrans (hp i k h) (hq k j h')
  | alt p q hp hq =>
      rintro i j (h | h)
      · exact hp i j h
      · exact hq i j h
  | repeated p min max hp =>
      rintro i j ⟨more, -, h⟩
      generalize min + more = n at h
      induction n generalizing i with
      | zero =>
          exact Or.inl h
      | succ n ih =>
          obtain ⟨k, hstep, hrest⟩ := h
          exact htrans (hp i k hstep) (ih k hrest)

/-! ## The search -/

theorem mem_unite {ps qs : Positions} {i : Nat} : i ∈ unite ps qs ↔ i ∈ ps ∨ i ∈ qs := by
  rw [unite, List.mem_merge, List.mem_filter]
  by_cases hps : i ∈ ps <;> simp [hps]

variable {R : Nat → Nat → Prop} {f : Positions → Positions} {j : Nat}

theorem mem_iterate_iff (hf : ∀ ps j, j ∈ f ps ↔ ∃ i ∈ ps, R i j) (n : Nat) (ps : Positions) :
    j ∈ iterate f n ps ↔ ∃ i ∈ ps, Steps R n i j := by
  induction n generalizing ps with
  | zero =>
      simp [iterate, Steps]
  | succ n ih =>
      rw [iterate, ih]
      simp only [hf, Steps]
      constructor
      · rintro ⟨k, ⟨i, hi, hstep⟩, hrest⟩
        exact ⟨i, hi, k, hstep, hrest⟩
      · rintro ⟨i, hi, k, hstep, hrest⟩
        exact ⟨k, ⟨i, hi, hstep⟩, hrest⟩

/-- The search adds what a limited number of steps leads to.  From positions that are not among
the newest ones a step must lead to nothing new. -/
theorem mem_reach_iff (hf : ∀ ps j, j ∈ f ps ↔ ∃ i ∈ ps, R i j) (times : Nat)
    {all newest : Positions} (hnewest : ∀ i ∈ newest, i ∈ all)
    (hknown : ∀ i ∈ all, i ∈ newest ∨ ∀ j, R i j → j ∈ all) :
    j ∈ reach f times all newest ↔ ∃ n ≤ times, ∃ i ∈ all, Steps R n i j := by
  induction times generalizing all newest with
  | zero =>
      simp [reach, Steps]
  | succ times ih =>
      have hnext : ∀ k, k ∈ (f newest).filter (fun p => !all.contains p) ↔
          (∃ i ∈ newest, R i k) ∧ k ∉ all := by
        intro k
        simp [List.mem_filter, hf]
      rw [reach]
      generalize (f newest).filter (fun p => !all.contains p) = next at hnext ⊢
      have hstep : ∀ i ∈ all, ∀ k, R i k → k ∈ unite all next := by
        intro i hi k hk
        rw [mem_unite, hnext]
        by_cases hall : k ∈ all
        · exact Or.inl hall
        · rcases hknown i hi with hnew | hold
          · exact Or.inr ⟨⟨i, hnew, hk⟩, hall⟩
          · exact Or.inl (hold k hk)
      cases next with
      | nil =>
          have hclosed : ∀ i ∈ all, ∀ k, R i k → k ∈ all := by
            intro i hi k hk
            simpa [mem_unite] using hstep i hi k hk
          refine ⟨fun hj => ⟨0, Nat.zero_le _, j, hj, rfl⟩, ?_⟩
          rintro ⟨n, -, i, hi, hsteps⟩
          exact hsteps.mem_of_closed hclosed hi
      | cons p next =>
          have hnext' : ∀ i ∈ p :: next, i ∈ unite all (p :: next) := fun i hi =>
            mem_unite.mpr (Or.inr hi)
          have hknown' : ∀ i ∈ unite all (p :: next),
              i ∈ p :: next ∨ ∀ j, R i j → j ∈ unite all (p :: next) := by
            intro i hi
            exact (mem_unite.mp hi).symm.imp id fun hall => hstep i hall
          rw [List.isEmpty_cons, if_neg Bool.false_ne_true, ih hnext' hknown']
          constructor
          · rintro ⟨n, hn, i, hi, hsteps⟩
            rcases mem_unite.mp hi with hall | hnew
            · exact ⟨n, Nat.le_succ_of_le hn, i, hall, hsteps⟩
            · obtain ⟨⟨k, hk, hki⟩, -⟩ := (hnext i).mp hnew
              exact ⟨n + 1, Nat.succ_le_succ hn, k, hnewest k hk, i, hki, hsteps⟩
          · rintro ⟨n, hn, i, hi, hsteps⟩
            cases n with
            | zero =>
                exact ⟨0, Nat.zero_le _, i, mem_unite.mpr (Or.inl hi), hsteps⟩
            | succ n =>
                obtain ⟨k, hk, hrest⟩ := hsteps
                exact ⟨n, Nat.le_of_succ_le_succ hn, k, hstep i hi k hk, hrest⟩

variable {text : Array Char}

/-- Of a repetition the search makes no more steps than there are positions, and leaves out none
that would lead elsewhere. -/
theorem repeated_iff (p : Pattern) (min : Nat) (max : Option Nat) (i j : Nat) :
    Matches text (.repeated p min max) i j ↔
      ∃ n ≤ (match max with
        | some m => m - min
        | none => text.size + 1),
        Steps (Matches text p) (Nat.min min (text.size + 1) + n) i j := by
  have hR := ascending_matches text p
  have hcut : ∀ n, Steps (Matches text p) (min + n) i j ↔
      Steps (Matches text p) (Nat.min min (text.size + 1) + n) i j := by
    intro n
    by_cases hmin : min ≤ text.size + 1
    · have hall : Nat.min min (text.size + 1) = min := Nat.min_eq_left hmin
      rw [hall]
    · have hlong : Nat.min min (text.size + 1) = text.size + 1 := Nat.min_eq_right (by omega)
      rw [hlong, Steps.congr_of_long hR (by omega),
        ← Steps.congr_of_long hR (show text.size < text.size + 1 + n by omega)]
  simp only [Matches, hcut]
  cases max with
  | some m =>
      simp
  | none =>
      constructor
      · rintro ⟨n, -, h⟩
        by_cases hn : n ≤ text.size + 1
        · exact ⟨n, hn, h⟩
        · refine ⟨text.size + 1, Nat.le_refl _, ?_⟩
          rw [Steps.congr_of_long hR (by omega)] at h ⊢
          exact h
      · rintro ⟨n, -, h⟩
        exact ⟨n, nofun, h⟩

/-- The search finds the ends of matches. -/
theorem mem_ends_iff (p : Pattern) (ps : Positions) (j : Nat) :
    j ∈ ends text p ps ↔ ∃ i ∈ ps, Matches text p i j := by
  induction p generalizing ps j with
  | empty =>
      simp [ends, Matches]
  | chars set =>
      rw [ends, List.mem_filterMap]
      refine exists_congr fun i => and_congr_right fun _ => ?_
      rw [Option.ite_none_right_eq_some, Option.any_eq_true]
      constructor
      · rintro ⟨⟨c, hc, hset⟩, hj⟩
        cases hj
        exact ⟨rfl, c, hc, hset⟩
      · rintro ⟨rfl, c, hc, hset⟩
        exact ⟨⟨c, hc, hset⟩, rfl⟩
  | assertion a word =>
      rw [ends, List.mem_filter]
      constructor
      · rintro ⟨hj, hholds⟩
        exact ⟨j, hj, rfl, hholds⟩
      · rintro ⟨i, hi, rfl, hholds⟩
        exact ⟨hi, hholds⟩
  | seq p q hp hq =>
      rw [ends, hq]
      simp only [hp, Matches]
      constructor
      · rintro ⟨k, ⟨i, hi, h⟩, h'⟩
        exact ⟨i, hi, k, h, h'⟩
      · rintro ⟨i, hi, k, h, h'⟩
        exact ⟨k, ⟨i, hi, h⟩, h'⟩
  | alt p q hp hq =>
      rw [ends, mem_unite, hp, hq]
      simp only [Matches, and_or_left, exists_or]
  | repeated p min max hp =>
      unfold ends
      rw [mem_reach_iff hp _ (fun i hi => hi) (fun i hi => Or.inl hi)]
      simp only [mem_iterate_iff hp, repeated_iff, Steps.add_iff]
      constructor
      · rintro ⟨n, hn, k, ⟨i, hi, hbefore⟩, hafter⟩
        exact ⟨i, hi, n, hn, k, hbefore, hafter⟩
      · rintro ⟨i, hi, n, hn, k, hbefore, hafter⟩
        exact ⟨n, hn, k, ⟨i, hi, hbefore⟩, hafter⟩

/-- **A pattern is in a text exactly if it matches there from some position.** -/
theorem isIn_iff (p : Pattern) (text : String) :
    p.isIn text = true ↔
      ∃ i ≤ text.toList.length, ∃ j, Matches text.toList.toArray p i j := by
  rw [isIn, Bool.not_eq_true', List.isEmpty_eq_false_iff_exists_mem]
  simp only [mem_ends_iff, List.mem_range, List.size_toArray, Nat.lt_succ_iff]
  constructor
  · rintro ⟨j, i, hi, h⟩
    exact ⟨i, hi, j, h⟩
  · rintro ⟨i, hi, j, h⟩
    exact ⟨j, i, hi, h⟩

end Pattern

end VnfPayload
