import Mathlib.Data.Nat.Notation
import Mathlib.Tactic.Cases
import PicoDrone.Library.Run

/-! # The tokens of a C text

An automaton over the characters: maximal words (identifiers and numbers, with the
letters beyond ASCII that C compilers take), single punctuation characters, white
space and `/* … */` comments between them. String and character literals are not
read. -/
namespace PicoDrone.Library.CLexer
open Run

inductive Token where
  | word (w : List Char)
  | punct (c : Char)
  deriving DecidableEq

/-- What the automaton is in the middle of; `slash` and `star` are the first
characters of the comment brackets. -/
inductive Mode where
  | blank
  | word (w : List Char)
  | slash
  | comment
  | star
  deriving DecidableEq

def wordChar (c : Char) : Bool := c.isAlphanum || c == '_' || decide (128 ≤ c.toNat)

/-- A character outside words and comments. -/
def start (c : Char) : Mode × List Token :=
  if wordChar c then (.word [c], [])
  else if c = '/' then (.slash, [])
  else if c.isWhitespace then (.blank, [])
  else (.blank, [.punct c])

def step : Mode → Char → Mode × List Token
  | .blank, c => start c
  | .word w, c =>
    if wordChar c then (.word (w ++ [c]), []) else ((start c).1, .word w :: (start c).2)
  | .slash, c =>
    if c = '*' then (.comment, []) else ((start c).1, .punct '/' :: (start c).2)
  | .comment, c => (if c = '*' then .star else .comment, [])
  | .star, c => (if c = '/' then .blank else if c = '*' then .star else .comment, [])

/-- The tokens of a whole text; the end closes the last word. -/
def lex (s : List Char) : List Token := (outputs step .blank (s ++ ['\n'])).flatten

/-- In mode `m` the text `s` gives the tokens `ts` and leads to mode `m'`. -/
def Scans (m : Mode) (s : List Char) (ts : List Token) (m' : Mode) : Prop :=
  stateAfter step m s = m' ∧ (outputs step m s).flatten = ts

theorem Scans.append {m m' m'' : Mode} {s s' : List Char} {ts ts' : List Token}
    (h : Scans m s ts m') (h' : Scans m' s' ts' m'') : Scans m (s ++ s') (ts ++ ts') m'' := by
  obtain ⟨rfl, rfl⟩ := h
  obtain ⟨rfl, rfl⟩ := h'
  exact ⟨stateAfter_append m s s', by rw [outputs_append, List.flatten_append]⟩

theorem Scans.nil (m : Mode) : Scans m [] [] m := ⟨rfl, rfl⟩

theorem Scans.lex_eq {s : List Char} {ts : List Token} (h : Scans .blank s ts .blank) :
    lex s = ts := by
  obtain ⟨hmode, rfl⟩ := h
  rw [lex, outputs_append, hmode, List.flatten_append]
  exact List.append_nil _

/-- A line that ends outside of comments. -/
theorem scans_line {s : List Char} (h : stateAfter step .blank (s ++ ['\n']) = .blank) :
    Scans .blank (s ++ ['\n']) (lex s) .blank := ⟨h, rfl⟩

/-- Pieces that each leave the automaton between words. -/
theorem Scans.flatMap {ι : Type*} {f : ι → List Char} {g : ι → List Token} {is : List ι}
    (h : ∀ i ∈ is, Scans .blank (f i) (g i) .blank) :
    Scans .blank (is.flatMap f) (is.flatMap g) .blank := by
  induction is with
  | nil => exact .nil _
  | cons i is ih =>
    obtain ⟨hi, his⟩ := List.forall_mem_cons.mp h
    exact hi.append (ih his)

theorem scans_word {w : List Char} (h : ∀ c ∈ w, wordChar c = true) (v : List Char) :
    Scans (.word v) w [] (.word (v ++ w)) := by
  induction w generalizing v with
  | nil => simpa using Scans.nil (.word v)
  | cons c w ih =>
    obtain ⟨hc, hw⟩ := List.forall_mem_cons.mp h
    have hstep : Scans (.word v) [c] [] (.word (v ++ [c])) := by
      simp [Scans, stateAfter, outputs, step, hc]
    simpa using hstep.append (ih hw (v ++ [c]))

/-- A word from its first character on. -/
theorem scans_blank_word {w : List Char} (hne : w ≠ []) (h : ∀ c ∈ w, wordChar c = true) :
    Scans .blank w [] (.word w) := by
  cases w with
  | nil => exact absurd rfl hne
  | cons c w =>
    obtain ⟨hc, hw⟩ := List.forall_mem_cons.mp h
    have hstart : Scans .blank [c] [] (.word [c]) := by
      simp [Scans, stateAfter, outputs, step, start, hc]
    exact hstart.append (scans_word hw [c])

/-- A character that cannot go on with a word ends it. -/
theorem Scans.close {w s : List Char} {c : Char} {ts : List Token} {m : Mode}
    (hc : wordChar c = false) (h : Scans .blank (c :: s) ts m) :
    Scans (.word w) (c :: s) (.word w :: ts) m := by
  obtain ⟨rfl, rfl⟩ := h
  simp [Scans, stateAfter, outputs, step, hc]

theorem scans_comment {s : List Char} (h : '*' ∉ s) : Scans .comment s [] .comment := by
  induction s with
  | nil => exact .nil _
  | cons c s ih =>
    obtain ⟨hc, hs⟩ := List.ne_and_not_mem_of_not_mem_cons h
    have hstep : Scans .comment [c] [] .comment := by
      simp [Scans, stateAfter, outputs, step, Ne.symm hc]
    exact hstep.append (ih hs)

/-! ## Integer constants -/

/-- The value of a hexadecimal digit, in lower case. -/
def hexDigit (c : Char) : Option ℕ := (List.range 16).find? fun n => n.digitChar == c

/-- The value of a decimal or hexadecimal constant; octal ones are not read. -/
def constant : List Char → Option ℕ
  | '0' :: 'x' :: d :: ds =>
    (d :: ds).foldlM (fun n c => (hexDigit c).map fun v => 16 * n + v) 0
  | '0' :: _ :: _ => none
  | w => if w ≠ [] ∧ w.all Char.isDigit then some (Nat.ofDigitChars 10 w 0) else none

theorem hexDigit_digitChar {n : ℕ} (h : n < 16) : hexDigit n.digitChar = some n := by
  revert n
  decide

theorem wordChar_digitChar {n : ℕ} (h : n < 16) : wordChar n.digitChar = true := by
  revert n
  decide

theorem constant_hex {x y : ℕ} (hx : x < 16) (hy : y < 16) :
    constant ['0', 'x', x.digitChar, y.digitChar] = some (16 * x + y) := by
  simp [constant, hexDigit_digitChar hx, hexDigit_digitChar hy]

theorem head_toDigits {n : ℕ} {w : List Char} (h : Nat.toDigits 10 n = '0' :: w) : n = 0 := by
  induction n using Nat.strongRecOn generalizing w with
  | ind n ih =>
    by_cases hn : n < 10
    · rw [Nat.toDigits_of_lt_base hn] at h
      exact Nat.digitChar_eq_zero.mp (List.cons.inj h).1
    · rw [Nat.toDigits_of_base_le (by decide) (by omega)] at h
      obtain ⟨v, hv, -⟩ := (List.append_eq_cons_iff.mp h).resolve_left fun hnil =>
        Nat.toDigits_ne_nil hnil.1
      have := ih (n / 10) (by omega) hv
      omega

theorem constant_decimal (n : ℕ) : constant (Nat.toDigits 10 n) = some n := by
  have hdigits : (Nat.toDigits 10 n).all Char.isDigit = true :=
    List.all_eq_true.mpr fun c hc => Nat.isDigit_of_mem_toDigits (by decide) (by decide) hc
  unfold constant
  split
  · next h =>
    rw [head_toDigits h, Nat.toDigits_zero] at h
    cases h
  · next h =>
    rw [head_toDigits h, Nat.toDigits_zero] at h
    cases h
  · rw [if_pos ⟨Nat.toDigits_ne_nil, hdigits⟩, Nat.ofDigitChars_ten_toDigits]

theorem wordChar_toDigits {n : ℕ} {c : Char} (h : c ∈ Nat.toDigits 10 n) :
    wordChar c = true := by
  have hc := Nat.isDigit_of_mem_toDigits (by decide) (by decide) h
  simp [wordChar, Char.isAlphanum, hc]

end PicoDrone.Library.CLexer
