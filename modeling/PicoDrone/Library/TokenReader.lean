import Mathlib.Data.List.Infix

/-! # Readers of token lists

A reader takes tokens off the front of a list or fails. `Reads p ts a` says that
`p` takes exactly `ts` and returns `a`, whatever comes behind; the rules below put
such statements together along a `do` block and along a repetition. -/
namespace PicoDrone.Library.TokenReader

universe u

abbrev Reader (τ : Type u) (α : Type u) := StateT (List τ) Option α

variable {τ α β : Type u}

/-- The next token. -/
def next : Reader τ τ
  | [] => none
  | t :: ts => some (t, ts)

/-- Exactly the tokens `l`. -/
def literal [DecidableEq τ] (l : List τ) : Reader τ PUnit := fun ts =>
  if l <+: ts then some (⟨⟩, ts.drop l.length) else none

/-- As many items as `p` reads, at most `n`. -/
def many (p : Reader τ α) : ℕ → List τ → Option (List α × List τ)
  | 0, ts => some ([], ts)
  | n + 1, ts =>
    match p ts with
    | none => some ([], ts)
    | some (a, ts') => (many p n ts').map fun r => (a :: r.1, r.2)

/-- As many items as `p` reads, none of them empty. -/
def all (p : Reader τ α) : Reader τ (List α) := fun ts => many p ts.length ts

/-- `p` reads `ts` as `a`, whatever follows. -/
def Reads (p : Reader τ α) (ts : List τ) (a : α) : Prop :=
  ∀ rest, p (ts ++ rest) = some (a, rest)

theorem Reads.pure (a : α) : Reads (pure a : Reader τ α) [] a := fun _ => rfl

theorem Reads.bind {p : Reader τ α} {f : α → Reader τ β} {ts ts' : List τ} {a : α} {b : β}
    (hp : Reads p ts a) (hf : Reads (f a) ts' b) : Reads (p >>= f) (ts ++ ts') b := by
  intro rest
  rw [List.append_assoc]
  exact (congrArg (Option.bind · _) (hp (ts' ++ rest))).trans (hf rest)

/-- The last step of a block. -/
theorem Reads.last {p : Reader τ α} {f : α → β} {ts : List τ} {a : α} (hp : Reads p ts a) :
    Reads (p >>= fun a => Pure.pure (f a)) ts (f a) := by
  simpa using hp.bind (f := fun a => Pure.pure (f a)) (Reads.pure (f a))

theorem Reads.next (t : τ) : Reads next [t] t := fun _ => rfl

theorem Reads.literal [DecidableEq τ] (l : List τ) : Reads (literal l) l ⟨⟩ := by
  intro rest
  simp [TokenReader.literal]

/-- A reader of one item, repeated, reads a sequence of them, if it fails on what follows. -/
theorem many_eq {ι : Type*} {p : Reader τ α} {f : ι → List τ} {g : ι → α} {is : List ι}
    {rest : List τ} (h : ∀ i ∈ is, Reads p (f i) (g i)) (hstop : p rest = none) {n : ℕ}
    (hn : is.length ≤ n) : many p n (is.flatMap f ++ rest) = some (is.map g, rest) := by
  induction is generalizing n with
  | nil =>
    cases n with
    | zero => rfl
    | succ n => simp [many, hstop]
  | cons i is ih =>
    obtain ⟨hi, his⟩ := List.forall_mem_cons.mp h
    cases n with
    | zero => cases hn
    | succ n =>
      rw [List.flatMap_cons, List.append_assoc, many, hi]
      simp only [ih his (Nat.le_of_succ_le_succ hn), Option.map_some, List.map_cons]

theorem all_eq {ι : Type*} {p : Reader τ α} {f : ι → List τ} {g : ι → α} {is : List ι}
    {rest : List τ} (h : ∀ i ∈ is, Reads p (f i) (g i)) (hne : ∀ i ∈ is, f i ≠ [])
    (hstop : p rest = none) : all p (is.flatMap f ++ rest) = some (is.map g, rest) := by
  refine many_eq h hstop ?_
  rw [List.length_append, List.length_flatMap]
  refine Nat.le_add_right_of_le ?_
  induction is with
  | nil => exact Nat.zero_le _
  | cons i is ih =>
    obtain ⟨-, his⟩ := List.forall_mem_cons.mp h
    obtain ⟨hi, hnes⟩ := List.forall_mem_cons.mp hne
    have hpos := List.length_pos_of_ne_nil hi
    have hlen := ih his hnes
    rw [List.map_cons, List.sum_cons, List.length_cons]
    omega

/-- A repetition in a block, up to tokens `ts` that start no further item. -/
theorem Reads.all {ι : Type*} {p : Reader τ α} {f : ι → List τ} {g : ι → α} {is : List ι}
    (h : ∀ i ∈ is, Reads p (f i) (g i)) (hne : ∀ i ∈ is, f i ≠ []) {k : List α → Reader τ β}
    {ts : List τ} {b : β} (hstop : ∀ rest, p (ts ++ rest) = none) (hk : Reads (k (is.map g)) ts b) :
    Reads (all p >>= k) (is.flatMap f ++ ts) b := by
  intro rest
  rw [List.append_assoc]
  exact (congrArg (Option.bind · _) (all_eq h hne (hstop rest))).trans (hk rest)

end PicoDrone.Library.TokenReader
