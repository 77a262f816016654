import Mathlib.Data.List.Induction
import Mathlib.Data.List.Nodup
import Mathlib.Data.List.Pairwise
import Mathlib.Data.Set.Operations
import Mathlib.Logic.Function.Iterate

/-! # Register files with an auto-incrementing address

A transfer that selects address `a` touches `a`, `next a`, `next (next a)`, …,
one value each. A sequence of writes whose addresses are all different leaves
every one of its values in place and everything else alone, and so does a sequence that
repeats writes of such a table in any order. -/
namespace PicoDrone.Library.RegisterFile

variable {A β : Type*} (next : A → A)

/-- The addresses of a transfer of `k` values. -/
def span (a : A) : ℕ → List A
  | 0 => []
  | k + 1 => a :: span (next a) k

theorem iterate_mem_span {a : A} {k i : ℕ} (h : i < k) : next^[i] a ∈ span next a k := by
  induction k generalizing a i with
  | zero => cases h
  | succ k ih =>
    cases i with
    | zero => exact List.mem_cons_self
    | succ i => exact List.mem_cons_of_mem _ (ih (Nat.lt_of_succ_lt_succ h))

variable [DecidableEq A]

/-- The registers after a write of `bs` from `a` on. -/
def store (m : A → β) (a : A) : List β → A → β
  | [] => m
  | b :: bs => store (Function.update m a b) (next a) bs

theorem store_of_not_mem {m : A → β} {a r : A} {bs : List β} (h : r ∉ span next a bs.length) :
    store next m a bs r = m r := by
  induction bs generalizing m a with
  | nil => rfl
  | cons b bs ih =>
    obtain ⟨hne, hr⟩ := List.ne_and_not_mem_of_not_mem_cons h
    rw [store, ih hr, Function.update_of_ne hne]

theorem store_apply {m : A → β} {a : A} {bs : List β} (hnd : (span next a bs.length).Nodup)
    {i : ℕ} (hi : i < bs.length) : store next m a bs (next^[i] a) = bs[i] := by
  induction bs generalizing m a i with
  | nil => cases hi
  | cons b bs ih =>
    obtain ⟨hnot, hnd'⟩ := List.nodup_cons.mp hnd
    cases i with
    | zero => exact (store_of_not_mem next hnot).trans (Function.update_self a b m)
    | succ i => exact ih hnd' (Nat.lt_of_succ_lt_succ hi)

/-! ## Sequences of writes -/

/-- The registers after several writes, first to last. -/
def storeAll (m : A → β) (ws : List (A × List β)) : A → β :=
  ws.foldl (fun m w => store next m w.1 w.2) m

omit [DecidableEq A] in
def spans (ws : List (A × List β)) : List A := ws.flatMap fun w => span next w.1 w.2.length

/-- A register outside what the writes span keeps its value. -/
theorem storeAll_of_not_mem {m : A → β} {r : A} {ws : List (A × List β)}
    (h : r ∉ spans next ws) : storeAll next m ws r = m r := by
  induction ws generalizing m with
  | nil => rfl
  | cons w ws ih =>
    rw [spans, List.flatMap_cons, List.mem_append, not_or] at h
    exact (ih h.2).trans (store_of_not_mem next h.1)

/-- If no two of the writes meet, every byte of each is found where it was stored. -/
theorem storeAll_apply {m : A → β} {ws : List (A × List β)} (hnd : (spans next ws).Nodup)
    {w : A × List β} (hw : w ∈ ws) {i : ℕ} (hi : i < w.2.length) :
    storeAll next m ws (next^[i] w.1) = w.2[i] := by
  induction ws generalizing m with
  | nil => cases hw
  | cons v ws ih =>
    rw [spans, List.flatMap_cons, List.nodup_append] at hnd
    obtain ⟨hv, hws, hdis⟩ := hnd
    rcases List.mem_cons.mp hw with rfl | hw'
    · -- no later write touches the addresses of the first
      have hnot : next^[i] w.1 ∉ spans next ws := fun hmem =>
        hdis _ (iterate_mem_span next hi) _ hmem rfl
      exact (storeAll_of_not_mem next hnot).trans (store_apply next hv hi)
    · exact ih hws hw'

/-! ## Writes that come from a table -/

theorem storeAll_append (m : A → β) (ws ws' : List (A × List β)) :
    storeAll next m (ws ++ ws') = storeAll next (storeAll next m ws) ws' :=
  List.foldl_append

/-- **Repeated writes.** If no two writes of the table `t` meet, any sequence of them leaves
the values of those that occur in it, however often, and everything else alone. -/
theorem storeAll_table {m : A → β} {t l : List (A × List β)} (hnd : (spans next t).Nodup)
    (hl : ∀ w ∈ l, w ∈ t) {w : A × List β} (hw : w ∈ t) {i : ℕ} (hi : i < w.2.length) :
    (w ∈ l → storeAll next m l (next^[i] w.1) = w.2[i]) ∧
      (w ∉ l → storeAll next m l (next^[i] w.1) = m (next^[i] w.1)) := by
  obtain ⟨hspan, hdis⟩ := List.nodup_flatMap.mp hnd
  have hsymm : Std.Symm (Function.onFun List.Disjoint fun w : A × List β =>
      span next w.1 w.2.length) := ⟨fun _ _ h _ hx hy => h hy hx⟩
  induction l using List.reverseRecOn with
  | nil => exact ⟨fun h => absurd h List.not_mem_nil, fun _ => rfl⟩
  | append_singleton l v ih =>
    obtain ⟨ihmem, ihnot⟩ := ih fun w hw => hl w (List.mem_append_left _ hw)
    have hlast : storeAll next m (l ++ [v]) = store next (storeAll next m l) v.1 v.2 :=
      storeAll_append next m l [v]
    rw [hlast, List.mem_append, List.mem_singleton]
    by_cases hv : w = v
    · subst hv
      exact ⟨fun _ => store_apply next (hspan w hw) hi, fun h => absurd (Or.inr rfl) h⟩
    · have hvt : v ∈ t := hl v (List.mem_append_right _ (List.mem_singleton_self v))
      have hdisj := hdis.forall hw hvt hv
      have hnot : next^[i] w.1 ∉ span next v.1 v.2.length := fun h =>
        hdisj (iterate_mem_span next hi) h
      rw [store_of_not_mem next hnot]
      exact ⟨fun h => ihmem (h.resolve_right hv), fun h => ihnot fun hmem => h (Or.inl hmem)⟩

/-! ## Files that agree on some addresses -/

variable {s : Set A} {m m' : A → β}

theorem store_eqOn (h : Set.EqOn m m' s) (a : A) (bs : List β) :
    Set.EqOn (store next m a bs) (store next m' a bs) s := by
  induction bs generalizing m m' a with
  | nil => exact h
  | cons b bs ih =>
    refine ih (fun r hr => ?_) (next a)
    rw [Function.update_apply, Function.update_apply, h hr]

theorem storeAll_eqOn (h : Set.EqOn m m' s) (ws : List (A × List β)) :
    Set.EqOn (storeAll next m ws) (storeAll next m' ws) s := by
  induction ws generalizing m m' with
  | nil => exact h
  | cons w ws ih => exact ih (store_eqOn next h w.1 w.2)

end PicoDrone.Library.RegisterFile
