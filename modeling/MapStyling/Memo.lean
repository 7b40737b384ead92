/-!
# Remembered answers

A table of answers by key. `Memo.fetch` answers a key from the table, or computes the answer and
remembers it. A table that holds nothing but computed answers (`Memo.Agrees`) cannot be told from the
computation, and fetching an answer keeps it so.
-/

namespace MapStyling

/-- Answers by key. -/
abbrev Memo (κ α : Type) := List (κ × α)

namespace Memo

variable {κ α : Type} [DecidableEq κ]

/-- The remembered answer of a key. -/
def get? : Memo κ α → κ → Option α
  | [], _ => none
  | (k, a) :: memo, key => if k = key then some a else get? memo key

/-- What fetching an answer leads to. -/
structure Fetched (κ α : Type) where
  /-- The answer. -/
  answer : α
  /-- The table after it. -/
  memo : Memo κ α
  /-- Whether the answer was computed. -/
  computed : Bool

/-- Answers a key from the table, or computes the answer and remembers it. -/
def fetch (memo : Memo κ α) (key : κ) (compute : κ → α) : Fetched κ α :=
  match memo.get? key with
  | some answer => ⟨answer, memo, false⟩
  | none =>
    let answer := compute key
    ⟨answer, (key, answer) :: memo, true⟩

/-- Whether every remembered answer is the computed one. -/
def Agrees (memo : Memo κ α) (compute : κ → α) : Prop :=
  ∀ key answer, memo.get? key = some answer → answer = compute key

theorem agrees_nil (compute : κ → α) : Agrees ([] : Memo κ α) compute := by
  intro key answer h
  cases h

/-- Remembering a computed answer leaves a table of computed answers. -/
theorem agrees_cons {memo : Memo κ α} {compute : κ → α} (h : memo.Agrees compute) (key : κ) :
    Agrees ((key, compute key) :: memo) compute := by
  intro k answer hget
  simp only [get?] at hget
  split at hget
  next hk => cases hget; rw [hk]
  next => exact h k answer hget

/-- An answer fetched from a table of computed answers is the computed one. -/
theorem fetch_answer {memo : Memo κ α} {compute : κ → α} (h : memo.Agrees compute) (key : κ) :
    (memo.fetch key compute).answer = compute key := by
  unfold fetch
  split
  next answer hget => exact h key answer hget
  next => rfl

/-- Fetching from a table of computed answers leaves one behind. -/
theorem fetch_agrees {memo : Memo κ α} {compute : κ → α} (h : memo.Agrees compute) (key : κ) :
    (memo.fetch key compute).memo.Agrees compute := by
  unfold fetch
  split
  · exact h
  · exact agrees_cons h key

/-- An answer is computed exactly when its key has none yet. -/
theorem fetch_computed (memo : Memo κ α) (key : κ) (compute : κ → α) :
    (memo.fetch key compute).computed = (memo.get? key).isNone := by
  unfold fetch
  split <;> simp_all

end Memo

end MapStyling
