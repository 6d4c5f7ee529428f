-- SUMMARY: rand.Shuffle as its swap loop over a sequence of draws, and selectRandomPeers: the results are exactly the permutations, each from one sequence of draws.
import Mathlib.Data.List.Nodup
import Mathlib.Data.List.Perm.Subperm

/-!
# Random peer selection

`selectRandomPeers(peers, n)` from `cmd/tunnelmesh-benchmarker/main.go`
returns all the peers when there are at most `n` of them, and otherwise the
first `n` of a copy shuffled by `rand.Shuffle(len, swap)` with the swap
`shuffled[i], shuffled[j] = shuffled[j], shuffled[i]`.

`rand.Shuffle` runs `for i := n - 1; i > 0; i-- { j := draw(i + 1); swap(i, j) }`
with `0 ≤ j ≤ i`. The generator is explicit: `Draws` gives the draw at each
index, so every result holds for every sequence of random numbers.

`shuffle_iff_perm` says that the results of the loop are exactly the
permutations of the slice, and `shuffle_draws_unique` that, when the slice has
no duplicates, one ordering comes from one sequence of draws: the loop is the
Fisher–Yates bijection between draw sequences and orderings.
`selectRandomPeers_iff` then describes the selections: exactly the `n`-element
sub-multisets of the peers, in every order.
-/

namespace TunnelMesh.Benchmarker

variable {α : Type}

/-- `s[i], s[j] = s[j], s[i]` on a slice: both right-hand sides are read first. -/
def swapAt (s : List α) (i j : Nat) : List α :=
  match s[i]?, s[j]? with
  | some x, some y => (s.set i y).set j x
  | _, _ => s

/-- The draws of `rand.Shuffle`: at the step for index `i`, a `j` with `0 ≤ j ≤ i`. -/
def Draws : Type := (i : Nat) → Fin (i + 1)

/-- The loop of `rand.Shuffle`, from index `i` down to `1`: `swap(i, j)` for the
draw `j` at `i`. -/
def shuffleLoop (draw : Draws) : Nat → List α → List α
  | 0, s => s
  | i + 1, s => shuffleLoop draw i (swapAt s (i + 1) (draw (i + 1)))

/-- `rand.Shuffle(len(s), swap)` on the slice `s`. -/
def shuffle (draw : Draws) (s : List α) : List α := shuffleLoop draw (s.length - 1) s

theorem swapAt_of_lt {s : List α} {i j : Nat} (hi : i < s.length) (hj : j < s.length) :
    swapAt s i j = (s.set i s[j]).set j s[i] := by
  simp [swapAt, List.getElem?_eq_getElem hi, List.getElem?_eq_getElem hj]

@[simp] theorem length_swapAt (s : List α) (i j : Nat) : (swapAt s i j).length = s.length := by
  unfold swapAt
  split <;> simp

theorem set_getElem_eq {l : List α} {i : Nat} (h : i < l.length) : l.set i l[i] = l :=
  List.ext_getElem (by simp) fun k _ _ => by
    rw [List.getElem_set]
    split <;> simp_all

theorem swapAt_perm {s : List α} {i j : Nat} (hi : i < s.length) (hj : j < s.length) :
    (swapAt s i j).Perm s := by
  classical
  rw [swapAt_of_lt hi hj, List.perm_iff_count]
  intro a
  rcases eq_or_ne i j with rfl | hij
  · rw [set_getElem_eq hi, set_getElem_eq hi]
  have h₁ := List.count_set s[j] a s i hi
  have h₂ := List.count_set s[i] a (s.set i s[j]) j (by simpa using hj)
  have hpos : s[i] = a → 0 < s.count a := fun h => List.count_pos_iff.2 (h ▸ List.getElem_mem hi)
  simp only [List.getElem_set_ne hij, beq_iff_eq] at h₁ h₂
  rw [h₂, h₁]
  by_cases hx : s[i] = a <;> by_cases hy : s[j] = a <;> simp only [hx, hy, if_true, if_false, true_implies] at hpos ⊢
  all_goals omega

theorem swapAt_append {p t : List α} {i j : Nat} (hi : i < p.length) (hj : j < p.length) :
    swapAt (p ++ t) i j = swapAt p i j ++ t := by
  have hi' : i < (p ++ t).length := by simp; omega
  have hj' : j < (p ++ t).length := by simp; omega
  rw [swapAt_of_lt hi' hj', swapAt_of_lt hi hj, List.getElem_append_left hi,
    List.getElem_append_left hj, List.set_append_left _ _ hi,
    List.set_append_left _ _ (by simpa using hj)]

theorem exists_eq_append_singleton {s : List α} (h : s ≠ []) : ∃ p x, s = p ++ [x] :=
  ⟨s.dropLast, s.getLast h, (List.dropLast_append_getLast h).symm⟩

/-- The element that the last slot of `p ++ [x]` receives from the draw `j`. -/
def pick (p : List α) (x : α) (j : Nat) : α := if h : j < p.length then p[j] else x

/-- The rest of `p ++ [x]` after the swap at its last slot with the draw `j`. -/
def refill (p : List α) (x : α) (j : Nat) : List α := if j < p.length then p.set j x else p

@[simp] theorem length_refill (p : List α) (x : α) (j : Nat) : (refill p x j).length = p.length := by
  unfold refill; split <;> simp

theorem pick_eq_getElem {p : List α} {x : α} {j : Nat} (hj : j < p.length + 1) :
    pick p x j = (p ++ [x]).get ⟨j, by simpa using hj⟩ := by
  unfold pick
  simp only [List.get_eq_getElem]
  split
  · next h => rw [List.getElem_append_left h]
  · next h => rw [List.getElem_concat_length _ _ _ (by omega)]

/-- The swap at the last slot of `p ++ [x]`: the slot receives `pick`, the rest is `refill`. -/
theorem swapAt_last {p : List α} {x : α} {j : Nat} (hj : j ≤ p.length) :
    swapAt (p ++ [x]) p.length j = refill p x j ++ [pick p x j] := by
  unfold refill pick
  split
  · next h =>
    rw [swapAt_of_lt (by simp) (by simp; omega), List.getElem_append_left h,
      List.getElem_concat_length _ _ _ rfl, List.set_append_right _ _ le_rfl,
      List.set_append_left _ _ h]
    simp
  · next h =>
    obtain rfl : j = p.length := by omega
    rw [swapAt_of_lt (by simp) (by simp), set_getElem_eq, set_getElem_eq]

@[simp] theorem length_shuffleLoop (d : Draws) : ∀ (i : Nat) (s : List α),
    (shuffleLoop d i s).length = s.length
  | 0, _ => rfl
  | i + 1, s => by rw [shuffleLoop, length_shuffleLoop d i, length_swapAt]

/-- The loop at index `i` never touches the slots above `i`. -/
theorem shuffleLoop_append (d : Draws) : ∀ (i : Nat) (p t : List α), i < p.length →
    shuffleLoop d i (p ++ t) = shuffleLoop d i p ++ t
  | 0, _, _, _ => rfl
  | i + 1, p, t, h => by
    have hj : (d (i + 1) : Nat) < p.length := by have := (d (i + 1)).isLt; omega
    rw [shuffleLoop, shuffleLoop, swapAt_append h hj,
      shuffleLoop_append d i _ t (by simp; omega)]

theorem shuffleLoop_perm (d : Draws) : ∀ (i : Nat) (s : List α), i < s.length →
    (shuffleLoop d i s).Perm s
  | 0, _, _ => List.Perm.refl _
  | i + 1, s, h => by
    have hj : (d (i + 1) : Nat) < s.length := by have := (d (i + 1)).isLt; omega
    exact (shuffleLoop_perm d i _ (by simp; omega)).trans (swapAt_perm h hj)

/-- One step from the top: the last slot is settled by the draw at `i + 1`, and the loop
goes on over the refilled rest. -/
theorem shuffleLoop_snoc (d : Draws) {p : List α} (x : α) {i : Nat} (hp : p.length = i + 1) :
    shuffleLoop d (i + 1) (p ++ [x]) =
      shuffleLoop d i (refill p x (d (i + 1))) ++ [pick p x (d (i + 1))] := by
  have hj : (d (i + 1) : Nat) ≤ p.length := by have := (d (i + 1)).isLt; omega
  have hlast := swapAt_last (x := x) hj
  rw [hp] at hlast
  rw [shuffleLoop, hlast, shuffleLoop_append d i _ _ (by simp; omega)]

/-- Only the draws at indices `1..i` matter. -/
theorem shuffleLoop_congr {d d' : Draws} : ∀ (i : Nat) (s : List α),
    (∀ k, k ≤ i → d k = d' k) → shuffleLoop d i s = shuffleLoop d' i s
  | 0, _, _ => rfl
  | i + 1, s, h => by
    rw [shuffleLoop, shuffleLoop, h (i + 1) le_rfl]
    exact shuffleLoop_congr i _ fun k hk => h k (by omega)

/-- Every permutation of a slice is the result of some draws. -/
theorem shuffleLoop_surjective : ∀ (i : Nat) (s t : List α), s.length = i + 1 → t.Perm s →
    ∃ d : Draws, shuffleLoop d i s = t
  | 0, s, t, hs, ht => by
    refine ⟨fun _ => 0, ?_⟩
    obtain ⟨a, rfl⟩ := List.length_eq_one.1 hs
    exact (List.perm_singleton.1 ht).symm
  | i + 1, s, t, hs, ht => by
    obtain ⟨p, x, rfl⟩ := exists_eq_append_singleton (s := s) (by rintro rfl; simp at hs)
    obtain ⟨t', y, rfl⟩ := exists_eq_append_singleton (s := t)
      (by rintro rfl; simp [← ht.length_eq] at hs)
    have hp : p.length = i + 1 := by simpa using hs
    obtain ⟨n, hn, hy⟩ := List.getElem_of_mem (ht.subset (List.mem_append_right _ (List.mem_singleton_self y)))
    have hn' : n < p.length + 1 := by simpa using hn
    have hpick : pick p x n = y := by rw [pick_eq_getElem hn', List.get_eq_getElem, hy]
    have hrest : t'.Perm (refill p x n) := by
      have := (swapAt_perm (s := p ++ [x]) (i := p.length) (j := n) (by simp) hn)
      rw [swapAt_last (by omega), hpick] at this
      exact List.perm_append_right_iff _ |>.1 (ht.trans this.symm)
    obtain ⟨d', hd'⟩ := shuffleLoop_surjective i _ t' (by simp [hp]) hrest
    refine ⟨fun k => if h : k = i + 1 then ⟨n, by omega⟩ else d' k, ?_⟩
    rw [shuffleLoop_snoc _ x hp, dif_pos rfl, hpick, ← hd']
    congr 1
    exact shuffleLoop_congr i _ fun k hk => dif_neg (by omega)

/-- On a slice without duplicates, the result determines the draws at `1..i`. -/
theorem shuffleLoop_draws_eq : ∀ (i : Nat) (s : List α) (d₁ d₂ : Draws), s.length = i + 1 →
    s.Nodup → shuffleLoop d₁ i s = shuffleLoop d₂ i s → ∀ k, 0 < k → k ≤ i → d₁ k = d₂ k
  | 0, _, _, _, _, _, _, k, hk, hki => absurd hki (by omega)
  | i + 1, s, d₁, d₂, hs, hnd, heq, k, hk, hki => by
    obtain ⟨p, x, rfl⟩ := exists_eq_append_singleton (s := s) (by rintro rfl; simp at hs)
    have hp : p.length = i + 1 := by simpa using hs
    rw [shuffleLoop_snoc _ x hp, shuffleLoop_snoc _ x hp] at heq
    obtain ⟨hloop, hpick⟩ := List.append_inj' heq rfl
    have hlast : d₁ (i + 1) = d₂ (i + 1) := by
      have h₁ := (d₁ (i + 1)).isLt
      have h₂ := (d₂ (i + 1)).isLt
      rw [List.singleton_inj, pick_eq_getElem (by omega), pick_eq_getElem (by omega),
        List.get_eq_getElem, List.get_eq_getElem, hnd.getElem_inj_iff] at hpick
      exact Fin.ext hpick
    rcases Nat.lt_or_eq_of_le hki with hki | rfl
    · rw [hlast] at hloop
      have hnd' : (refill p x (d₂ (i + 1))).Nodup := by
        have := swapAt_perm (s := p ++ [x]) (i := p.length) (j := d₂ (i + 1)) (by simp)
          (by simp; omega)
        rw [swapAt_last (by omega)] at this
        exact (this.nodup_iff.2 hnd).sublist (List.sublist_append_left _ _)
      exact shuffleLoop_draws_eq i _ d₁ d₂ (by simp [hp]) hnd' hloop k hk (by omega)
    · exact hlast

/-! ## The whole shuffle -/

theorem shuffle_perm (d : Draws) (s : List α) : (shuffle d s).Perm s := by
  rcases s with _ | ⟨a, s⟩
  · exact List.Perm.refl _
  · exact shuffleLoop_perm d _ _ (by simp)

theorem shuffle_surjective {s t : List α} (h : t.Perm s) : ∃ d, shuffle d s = t := by
  rcases s with _ | ⟨a, s⟩
  · exact ⟨fun _ => 0, (List.perm_nil.1 h).symm⟩
  · exact shuffleLoop_surjective _ _ t (by simp) h

/-- The results of `rand.Shuffle` on a slice are exactly its permutations. -/
theorem shuffle_iff_perm (s t : List α) : (∃ d, shuffle d s = t) ↔ t.Perm s :=
  ⟨fun ⟨d, hd⟩ => hd ▸ shuffle_perm d s, shuffle_surjective⟩

/-- On a slice without duplicates, two draws that give the same result agree at every
index the loop visits: each ordering comes from exactly one sequence of draws. -/
theorem shuffle_draws_unique {s : List α} (hs : s.Nodup) {d₁ d₂ : Draws}
    (h : shuffle d₁ s = shuffle d₂ s) : ∀ k, 0 < k → k < s.length → d₁ k = d₂ k := by
  intro k hk hks
  rcases s with _ | ⟨a, s⟩
  · simp at hks
  · exact shuffleLoop_draws_eq _ _ d₁ d₂ (by simp) hs h k hk (by simp at hks ⊢; omega)

/-- Two draw sequences that differ only past the end of a two-element slice give the same
shuffle, and agree at the one index the loop visits. -/
theorem shuffle_draws_unique_pair :
    (fun _ => 0 : Draws) 1 = (fun i => if i = 1 then 0 else Fin.last i : Draws) 1 :=
  @shuffle_draws_unique Nat [1, 2] (by decide) (fun _ => 0) (fun i => if i = 1 then 0 else Fin.last i)
    (by decide) 1 (by decide) (by decide)

/-! ## Selecting the peers -/

/-- `selectRandomPeers(peers, n)`: all the peers when there are at most `n`, else the
first `n` of a shuffled copy. -/
def selectRandomPeers (draw : Draws) (peers : List α) (n : Nat) : List α :=
  if peers.length ≤ n then peers else (shuffle draw peers).take n

theorem selectRandomPeers_subperm (draw : Draws) (peers : List α) (n : Nat) :
    (selectRandomPeers draw peers n).Subperm peers := by
  unfold selectRandomPeers
  split
  · exact List.Subperm.refl _
  · exact (List.take_sublist _ _).subperm.trans (shuffle_perm draw peers).subperm

/-- With more than `n` peers, the selections are exactly the `n`-element sub-multisets of
the peers, in every order. -/
theorem selectRandomPeers_iff {peers : List α} {n : Nat} (h : n < peers.length) (sel : List α) :
    (∃ d, selectRandomPeers d peers n = sel) ↔ sel.length = n ∧ sel.Subperm peers := by
  constructor
  · rintro ⟨d, rfl⟩
    refine ⟨?_, selectRandomPeers_subperm d peers n⟩
    simp [selectRandomPeers, if_neg (Nat.not_le.2 h), (shuffle_perm d peers).length_eq]
    omega
  · rintro ⟨hlen, l, hl, hsub⟩
    obtain ⟨rest, hrest⟩ := hsub.exists_perm_append
    obtain ⟨d, hd⟩ := shuffle_surjective ((hl.symm.append_right rest).trans hrest.symm)
    exact ⟨d, by rw [selectRandomPeers, if_neg (Nat.not_le.2 h), hd, List.take_left' hlen]⟩

/-- Out of three peers, the third and then the first is a possible selection. -/
theorem selectRandomPeers_three_first_last : ∃ d, selectRandomPeers d [1, 2, 3] 2 = [3, 1] :=
  (selectRandomPeers_iff (by decide) [3, 1]).2 ⟨rfl, ⟨[1, 3], List.Perm.swap 3 1 [], by decide⟩⟩

end TunnelMesh.Benchmarker
